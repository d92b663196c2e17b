import RestContract.Proofs.CompileErrors
import RestContract.Proofs.FirstMeetings
import RestContract.Proofs.Sessions

/-!
Resolution that goes on after a failure. A root that fails leaves behind the names that it
claimed and did not come to define. No later root ever builds what such a hollow name
stands for, because its origin already owns a name: the name is referred to as if it were
built. A root that succeeds leaves no hollow name of its own. So a reference leads to
nothing exactly if its name was first claimed inside a root that failed.
-/
namespace RestContract

/-- The name is taken, and there is no schema for it. -/
def Registry.Hollow (r : Registry) (name : String) : Prop :=
  r.contains name = true ∧ r.get? name = none

theorem Registry.hollow_iff {r : Registry} {name : String} :
    r.Hollow name ↔ ∃ origin, r.nameOf? origin = some name ∧ r.schemaOf? origin = none := by
  constructor
  · intro h
    obtain ⟨origin, hname⟩ := contains_iff.mp h.1
    exact ⟨origin, hname, (schemaOf?_of_nameOf? hname).trans h.2⟩
  · intro h
    obtain ⟨origin, hname, hschema⟩ := h
    exact ⟨contains_of_nameOf? hname, (schemaOf?_of_nameOf? hname).symm.trans hschema⟩

namespace Pass

variable {catalog : TypeCatalog} {rule : Registry → Construction → Prop} {p p' : Pass}
  {origin : Origin} {name : String}

namespace Interrupted

/-- What has a name before is built afterwards exactly if it was built before. -/
theorem built_iff (h : Interrupted catalog rule p p')
    (hname : p.registry.nameOf? origin = some name) :
    (p'.registry.schemaOf? origin).isSome = (p.registry.schemaOf? origin).isSome := by
  induction h with
  | here p => rfl
  | after hgrowth _ ih =>
    rw [ih (hgrowth.keeps origin name hname), hgrowth.built_iff hname]
  | inside hclaim _ ih =>
    obtain ⟨hnone, hfree, rfl⟩ := claim_new hclaim
    rw [ih (Registry.extends_enroll origin name hname), Registry.schemaOf?_enroll hfree hnone]

/-- An interrupted growth fills no hollow name, and hollows out only what it claims. -/
theorem hollow_iff (h : Interrupted catalog rule p p') :
    p'.registry.Hollow name ↔
      p.registry.Hollow name ∨ p.registry.contains name = false ∧ p'.registry.Hollow name := by
  have hkept : p.registry.contains name = true →
      (p'.registry.Hollow name ↔ p.registry.Hollow name) := by
    intro hcontains
    obtain ⟨origin, hname⟩ := Registry.contains_iff.mp hcontains
    have hname' := h.keeps origin name hname
    have hbuilt := h.built_iff hname
    rw [Registry.schemaOf?_of_nameOf? hname, Registry.schemaOf?_of_nameOf? hname'] at hbuilt
    simp only [Registry.Hollow, hcontains, Registry.contains_of_nameOf? hname', true_and]
    rw [← Option.not_isSome_iff_eq_none, ← Option.not_isSome_iff_eq_none, hbuilt]
  cases hcontains : p.registry.contains name with
  | true => simp [hkept hcontains]
  | false => simp [Registry.Hollow, hcontains]

end Interrupted

/-- A growth that comes to its end leaves the hollow names as they are. -/
theorem Growth.hollow_iff {log : List Construction} (h : Growth catalog rule p log p') :
    p'.registry.Hollow name ↔ p.registry.Hollow name := by
  rw [Registry.hollow_iff, Registry.hollow_iff]
  refine exists_congr fun origin => ?_
  constructor
  · intro hhollow
    obtain ⟨hname, hschema⟩ := hhollow
    rcases h.known_or_constructed hname with hknown | ⟨c, hc, rfl, -⟩
    · have hbuilt := h.built_iff hknown
      rw [hschema] at hbuilt
      exact ⟨hknown, Option.isNone_iff_eq_none.mp (by simpa using hbuilt.symm)⟩
    · have hbuilt := (h.constructed hc).2.2
      rw [hschema] at hbuilt
      cases hbuilt
  · intro hhollow
    obtain ⟨hname, hschema⟩ := hhollow
    have hbuilt := h.built_iff hname
    rw [hschema] at hbuilt
    exact ⟨h.keeps origin name hname, Option.isNone_iff_eq_none.mp (by simpa using hbuilt)⟩

/-- The root fails in the pass, and a name that it was the first to claim is left hollow. -/
def HollowedBy (catalog : TypeCatalog) (p : Pass) (root : TypeDescriptor) (name : String) : Prop :=
  ∃ preferred existing incoming p',
    resolveRoot catalog root p = .error (.schemaNameCollision preferred existing incoming) p' ∧
    p.registry.contains name = false ∧ p'.registry.Hollow name

end Pass

section Roots

open Resolving Pass

variable {catalog : TypeCatalog} {policy : CollisionPolicy} {p p' : Pass}
  {root t : TypeDescriptor} {roots : List TypeDescriptor} {name : String}

/-- All that a root can fail with is a collision, and only where collisions are errors. -/
theorem raises_resolveRoot (catalog : TypeCatalog) (policy : CollisionPolicy)
    (root : TypeDescriptor) :
    Raises policy (fun e => policy = .error ∧
      ∃ preferred existing incoming, e = .schemaNameCollision preferred existing incoming)
      (resolveRoot catalog root) := by
  refine (Resolver.related_ofLevels (Raises.congruence catalog ?_) _).1 root 1
  intro hpolicy preferred existing incoming
  exact ⟨hpolicy, preferred, existing, incoming, rfl⟩

theorem collision_of_resolveRoot {e : CompileError}
    (h : resolveRoot catalog root p = .error e p') :
    p.registry.policy = .error ∧
      ∃ preferred existing incoming, e = .schemaNameCollision preferred existing incoming := by
  rcases raises_resolveRoot catalog _ root p rfl with ⟨ref, q, hok, -⟩ | ⟨e', q, herror, he'⟩
  · rw [hok] at h
    cases h
  · rw [herror] at h
    cases h
    exact he'

theorem resolveRoot_ok_of_qualify (hp : p.registry.policy = .qualify) :
    ∃ ref q, resolveRoot catalog root p = .ok ref q ∧ q.registry.policy = .qualify := by
  rcases raises_resolveRoot catalog _ root p hp with hok | ⟨-, -, -, hpolicy, -⟩
  · exact hok
  · cases hpolicy

theorem qualify_afterAll (hp : p.registry.policy = .qualify) :
    (p.afterAll catalog (roots.map .resolve)).registry.policy = .qualify := by
  induction roots generalizing p with
  | nil => exact hp
  | cons root rest ih =>
    obtain ⟨ref, q, hok, hq⟩ := @resolveRoot_ok_of_qualify catalog p root hp
    have hafter : p.after catalog (.resolve root) = q := leaves_of_ok hok
    exact ih (hafter ▸ hq)

theorem hollow_of_ok {ref : SchemaRef} (hp : p.Faithful catalog)
    (h : resolveRoot catalog root p = .ok ref p') :
    p'.registry.Hollow name ↔ p.registry.Hollow name := by
  obtain ⟨⟨log, hgrowth⟩, -⟩ := (grows_resolveRoot hp root).of_ok h
  exact hgrowth.hollow_iff

/-- One root: what was hollow stays so, and more becomes hollow only where the root fails. -/
theorem hollow_after (hp : p.Faithful catalog) :
    (p.after catalog (.resolve root)).registry.Hollow name ↔
      p.registry.Hollow name ∨ HollowedBy catalog p root name := by
  unfold after HollowedBy
  cases hrun : resolveRoot catalog root p with
  | ok ref p' => simp [leaves_of_ok hrun, hollow_of_ok hp hrun]
  | error e p' =>
    have hgrows := grows_resolveRoot hp root
    unfold Grows Ensures at hgrows
    rw [hrun] at hgrows
    obtain ⟨-, preferred, existing, incoming, rfl⟩ := collision_of_resolveRoot hrun
    simp only [leaves_of_error hrun, EStateM.Result.error.injEq]
    rw [hgrows.hollow_iff]
    constructor
    · intro h
      exact h.imp_right fun hnew => ⟨preferred, existing, incoming, p', ⟨rfl, rfl⟩, hnew⟩
    · intro h
      refine h.imp_right fun hnew => ?_
      obtain ⟨_, _, _, _, ⟨-, rfl⟩, hnew⟩ := hnew
      exact hnew

/-- Roots in a row: a name is hollow at the end exactly if it was hollow before, or one of
them left it hollow. -/
theorem hollow_afterAll (hp : p.Faithful catalog) :
    (p.afterAll catalog (roots.map .resolve)).registry.Hollow name ↔ p.registry.Hollow name ∨
      ∃ before root after, roots = before ++ root :: after ∧
        HollowedBy catalog (p.afterAll catalog (before.map .resolve)) root name := by
  induction roots generalizing p with
  | nil => simp [afterAll]
  | cons first rest ih =>
    have hrest := ih ((interrupted_after hp (.resolve first)).faithful hp)
    rw [hollow_after hp, or_assoc] at hrest
    refine hrest.trans (or_congr_right ?_)
    constructor
    · intro h
      rcases h with hfirst | ⟨before, root, after, rfl, hlater⟩
      · exact ⟨[], first, rest, rfl, hfirst⟩
      · exact ⟨first :: before, root, after, rfl, hlater⟩
    · intro h
      obtain ⟨before, root, after, hsplit, hhollowed⟩ := h
      cases before with
      | nil =>
        cases hsplit
        exact .inl hhollowed
      | cons first' before =>
        cases hsplit
        exact .inr ⟨before, root, after, rfl, hhollowed⟩

theorem contains_of_resolveRoot (hp : p.Faithful catalog)
    (h : resolveRoot catalog t p = .ok (.component name) p') :
    p'.registry.contains name = true := by
  obtain ⟨hgrows, hposition⟩ := (grows_resolveRoot hp t).of_ok h
  obtain ⟨origin, known, hname, hpath⟩ :=
    Registry.covers_of_position? hposition (componentPath ++ name) .here
  cases SchemaRef.component_inj (congrArg SchemaRef.reference hpath)
  exact Registry.contains_of_nameOf? hname

end Roots

open Pass in
/-- A reference that a root comes to leads to no schema exactly if an earlier root failed,
at a collision, and was the first to claim the name of the reference. The name is hollow
from then on, whatever is resolved later. Where collisions are settled no root fails, and
every reference leads to a schema. -/
theorem hollow_reference_iff_failed_root (catalog : TypeCatalog) (policy : CollisionPolicy)
    (roots : List TypeDescriptor) (t : TypeDescriptor) (name : String) (p : Pass)
    (h : resolveRoot catalog t ((start policy).afterAll catalog (roots.map .resolve)) =
      .ok (.component name) p) :
    (p.registry.get? name = none ↔ ∃ before root after, roots = before ++ root :: after ∧
      HollowedBy catalog ((start policy).afterAll catalog (before.map .resolve)) root name) ∧
    (policy = .qualify → (p.registry.get? name).isSome = true ∧
      ∀ before root after, roots = before ++ root :: after → ∃ ref q,
        resolveRoot catalog root ((start policy).afterAll catalog (before.map .resolve)) =
          .ok ref q) := by
  have hreached := faithful_reached catalog policy (roots.map .resolve)
  have hunknown : ¬(Pass.start policy).registry.Hollow name := by
    intro hhollow
    cases hhollow.1
  have hiff : p.registry.get? name = none ↔ ∃ before root after,
      roots = before ++ root :: after ∧
        HollowedBy catalog ((start policy).afterAll catalog (before.map .resolve)) root name := by
    have hhollow : p.registry.get? name = none ↔ p.registry.Hollow name := by
      simp [Registry.Hollow, contains_of_resolveRoot hreached h]
    rw [hhollow, hollow_of_ok hreached h, hollow_afterAll (.start catalog policy),
      or_iff_right hunknown]
  refine ⟨hiff, fun hqualify => ?_⟩
  have hsucceeds : ∀ (before : List TypeDescriptor) root, ∃ ref q,
      resolveRoot catalog root ((start policy).afterAll catalog (before.map .resolve)) =
        .ok ref q := by
    intro before root
    have hkept : ((start policy).afterAll catalog (before.map .resolve)).registry.policy =
        .qualify := qualify_afterAll hqualify
    obtain ⟨ref, q, hok, -⟩ := @resolveRoot_ok_of_qualify catalog _ root hkept
    exact ⟨ref, q, hok⟩
  refine ⟨?_, fun before root _ _ => hsucceeds before root⟩
  by_contra hnone
  obtain ⟨before, root, after, -, preferred, existing, incoming, q, hfails, -⟩ :=
    hiff.mp (Option.not_isSome_iff_eq_none.mp hnone)
  obtain ⟨ref, q', hok⟩ := hsucceeds before root
  rw [hok] at hfails
  cases hfails

-- A type whose members have one simple name.
namespace Holders

def holder : TypeDefinition where
  name := "org.acme.Holder"
  members := [⟨"a", .ofName "org.acme.Cat", false, false⟩,
    ⟨"b", .ofName "org.other.Cat", false, false⟩]

abbrev catalog : TypeCatalog :=
  .ofList [holder, { name := "org.acme.Cat" }, { name := "org.other.Cat" }]

theorem holder_leaf : catalog.IsLeaf holder :=
  ⟨by decide +kernel, rfl, by decide +kernel⟩

def findings? : Option (Option String × Bool) :=
  match resolveRoot catalog (.ofName holder.name) (.start .error) with
  | .ok _ _ => none
  | .error _ p => some (p.registry.nameOf? (.type holder.name), (p.registry.get? "Holder").isSome)

open Pass in
theorem exists_failure : ∃ e p,
    resolveRoot catalog (.ofName holder.name) (.start .error) = .error e p ∧
    (start .error).afterAll catalog ([TypeDescriptor.ofName holder.name].map .resolve) = p ∧
    resolveRoot catalog (.ofName holder.name) p = .ok (.component "Holder") p ∧
    p.registry.get? "Holder" = none := by
  have hfindings : findings? = some (some "Holder", false) := by decide +kernel
  unfold findings? at hfindings
  split at hfindings
  · cases hfindings
  next e p hfails =>
    injection hfindings with hfound
    injection hfound with hname hbuilt
    have hlookedUp : (TypeDescriptor.ofName holder.name).isLookedUp = true := by decide +kernel
    refine ⟨e, p, hfails, ?_, resolveRoot_of_known holder_leaf hlookedUp hname, ?_⟩
    · simp only [List.map_cons, List.map_nil, afterAll, List.foldl_cons, List.foldl_nil, after,
        Resolving.leaves_of_error hfails]
    · simpa using hbuilt

open Pass in
/-- The name of the holder was hollowed out by its own first resolution. -/
theorem holder_hollowed_by_failed_root : ∃ p,
    resolveRoot catalog (.ofName holder.name)
      ((start .error).afterAll catalog ([TypeDescriptor.ofName holder.name].map .resolve)) =
        .ok (.component "Holder") p ∧
    p.registry.get? "Holder" = none ∧
    HollowedBy catalog (.start .error) (.ofName holder.name) "Holder" := by
  obtain ⟨e, p, -, hafter, hagain, hnone⟩ := exists_failure
  rw [← hafter] at hagain
  obtain ⟨before, root, after, hsplit, hhollowed⟩ := (hollow_reference_iff_failed_root catalog
    .error [.ofName holder.name] (.ofName holder.name) "Holder" _ hagain).1.mp (hafter ▸ hnone)
  refine ⟨_, hagain, hafter ▸ hnone, ?_⟩
  cases before with
  | nil =>
    cases hsplit
    exact hhollowed
  | cons first rest => simp at hsplit

/-- The holder fails as a root, and as a root once more it is a component without schema. -/
theorem holder_hollow_after_failure : ∃ e p q,
    resolveRoot catalog (.ofName holder.name) (.start .error) = .error e p ∧
    resolveRoot catalog (.ofName holder.name) p = .ok (.component "Holder") q ∧
    q.registry.get? "Holder" = none := by
  obtain ⟨e, p, hfails, -, hagain, hnone⟩ := exists_failure
  exact ⟨e, p, p, hfails, hagain, hnone⟩

end Holders

end RestContract
