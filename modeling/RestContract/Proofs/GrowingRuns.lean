import RestContract.Proofs.Growth
import RestContract.Proofs.TypePositions

/-!
Runs that grow their pass. A step of resolution grows the pass and ends under a
condition on its result and the registry, or it fails in the middle of a growth.
Such steps compose. A component is constructed by a step that grows the pass and
then hands out attachments.
-/
namespace RestContract

namespace Pass

variable {catalog : TypeCatalog} {rule rule' : Registry → Construction → Prop}
  {p p' p'' : Pass}

theorem Faithful.start (catalog : TypeCatalog) (policy : CollisionPolicy) :
    (Pass.start policy).Faithful catalog := by
  intro base known h
  simp [Pass.start] at h

def GrowsTo (catalog : TypeCatalog) (rule : Registry → Construction → Prop) (p p' : Pass) : Prop :=
  ∃ log, Growth catalog rule p log p'

namespace GrowsTo

theorem refl (p : Pass) : p.GrowsTo catalog rule p := ⟨[], .refl p⟩

theorem of_quiet (h : p.Quiet catalog p') : p.GrowsTo catalog rule p' := ⟨[], .quiet h⟩

theorem trans (h : p.GrowsTo catalog rule p') (h' : p'.GrowsTo catalog rule p'') :
    p.GrowsTo catalog rule p'' := by
  obtain ⟨log, hgrowth⟩ := h
  obtain ⟨log', hgrowth'⟩ := h'
  exact ⟨log ++ log', hgrowth.append hgrowth'⟩

theorem faithful (h : p.GrowsTo catalog rule p') (hp : p.Faithful catalog) :
    p'.Faithful catalog := by
  obtain ⟨log, hgrowth⟩ := h
  exact hgrowth.faithful hp

theorem keeps (h : p.GrowsTo catalog rule p') : p.registry.Extends p'.registry := by
  obtain ⟨log, hgrowth⟩ := h
  exact hgrowth.keeps

end GrowsTo

namespace Interrupted

theorem mono (himp : ∀ r c, rule r c → rule' r c)
    (h : Interrupted catalog rule p p') : Interrupted catalog rule' p p' := by
  induction h with
  | here p => exact .here p
  | after hgrowth _ ih => exact .after (hgrowth.mono himp) ih
  | inside hclaim _ ih => exact .inside hclaim ih

theorem of_growsTo (h : p.GrowsTo catalog rule p') : p.Interrupted catalog rule p' := by
  obtain ⟨log, hgrowth⟩ := h
  exact .after hgrowth (.here p')

theorem trans (h : p.Interrupted catalog rule p') (h' : p'.Interrupted catalog rule p'') :
    p.Interrupted catalog rule p'' := by
  induction h with
  | here p => exact h'
  | after hgrowth _ ih => exact .after hgrowth (ih h')
  | inside hclaim _ ih => exact .inside hclaim (ih h')

theorem faithful (h : Interrupted catalog rule p p') (hp : p.Faithful catalog) :
    p'.Faithful catalog := by
  induction h with
  | here p => exact hp
  | after hgrowth _ ih => exact ih (hgrowth.faithful hp)
  | inside _ _ ih => exact ih hp

theorem keeps (h : Interrupted catalog rule p p') : p.registry.Extends p'.registry := by
  induction h with
  | here p => exact .refl _
  | after hgrowth _ ih => exact hgrowth.keeps.trans ih
  | inside hclaim _ ih =>
    obtain ⟨-, -, rfl⟩ := claim_new hclaim
    exact Registry.extends_enroll.trans ih

end Interrupted

end Pass

/-- The second pass comes after the first took the name, which was free, for the origin,
which had none. -/
structure Pass.Enrolls (p : Pass) (name : String) (origin : Origin) (p' : Pass) : Prop where
  unknown : p.registry.nameOf? origin = none
  free : p.registry.contains name = false
  registry : p'.registry = p.registry.enroll name origin
  faithful : ∀ {catalog : TypeCatalog}, p.Faithful catalog → p'.Faithful catalog

namespace Pass.Enrolls

variable {p p' : Pass} {name : String} {origin : Origin}

theorem keeps (h : p.Enrolls name origin p') : p.registry.Extends p'.registry :=
  h.registry ▸ Registry.extends_enroll

theorem nameOf?_eq (h : p.Enrolls name origin p') (other : Origin) :
    p'.registry.nameOf? other = if other = origin then some name else p.registry.nameOf? other :=
  h.registry ▸ Registry.nameOf?_enroll h.free h.unknown

theorem nameOf? (h : p.Enrolls name origin p') : p'.registry.nameOf? origin = some name := by
  rw [h.nameOf?_eq, if_pos rfl]

theorem schemaOf?_eq (h : p.Enrolls name origin p') (other : Origin) :
    p'.registry.schemaOf? other = p.registry.schemaOf? other :=
  h.registry ▸ Registry.schemaOf?_enroll h.free h.unknown

end Pass.Enrolls

namespace Resolving

variable {α β : Type} {catalog : TypeCatalog} {rule rule' : Registry → Construction → Prop}
  {p p' : Pass} {x : Resolving α} {f : α → Resolving β}

/-- The run ends under the condition, or it fails in the middle of a growth. -/
def Ensures (catalog : TypeCatalog) (rule : Registry → Construction → Prop) (x : Resolving α)
    (p : Pass) (post : α → Pass → Prop) : Prop :=
  match x p with
  | .ok a p' => post a p'
  | .error _ p' => p.Interrupted catalog rule p'

def Grows (catalog : TypeCatalog) (rule : Registry → Construction → Prop) (x : Resolving α)
    (p : Pass) (post : α → Registry → Prop) : Prop :=
  Ensures catalog rule x p fun a p' => p.GrowsTo catalog rule p' ∧ post a p'.registry

/-- The run grows the pass and then hands out attachments, of which the condition
speaks too. -/
def Builds (catalog : TypeCatalog) (rule : Registry → Construction → Prop)
    (x : Resolving α) (p : Pass) (post : α → List Attachment → Registry → Prop) : Prop :=
  Ensures catalog rule x p fun a p'' => ∃ p' attachments,
    p.GrowsTo catalog rule p' ∧ p'' = p'.attachAll attachments ∧ post a attachments p'.registry

theorem Ensures.imp {post post' : α → Pass → Prop} (h : Ensures catalog rule x p post)
    (himp : ∀ a p', post a p' → post' a p') : Ensures catalog rule x p post' := by
  unfold Ensures at h ⊢
  cases hx : x p with
  | ok a p' =>
    rw [hx] at h
    exact himp a p' h
  | error e p' => simpa [hx] using h

theorem bind_ok {a : α} (h : x p = .ok a p') : (x >>= f) p = f a p' := by
  simp [bind, EStateM.bind, h]

theorem bind_error {e : CompileError} (h : x p = .error e p') : (x >>= f) p = .error e p' := by
  simp [bind, EStateM.bind, h]

theorem bind_eq_ok {b : β} (h : (x >>= f) p = .ok b p') :
    ∃ a q, x p = .ok a q ∧ f a q = .ok b p' := by
  cases hx : x p with
  | error e q =>
    rw [bind_error hx] at h
    cases h
  | ok a q => exact ⟨a, q, rfl, (bind_ok hx).symm.trans h⟩

theorem Ensures.bind {mid : α → Registry → Prop} {post : β → Pass → Prop}
    (h : Grows catalog rule x p mid)
    (hf : ∀ a p', p.GrowsTo catalog rule p' → mid a p'.registry →
      Ensures catalog rule (f a) p' post) :
    Ensures catalog rule (x >>= f) p post := by
  unfold Grows Ensures at h
  unfold Ensures
  cases hx : x p with
  | error e p' =>
    rw [hx] at h
    rw [bind_error hx]
    exact h
  | ok a p' =>
    rw [hx] at h
    obtain ⟨hgrows, hmid⟩ := h
    have hrest := hf a p' hgrows hmid
    unfold Ensures at hrest
    rw [bind_ok hx]
    cases hfa : f a p' with
    | ok b p'' => simpa [hfa] using hrest
    | error e p'' =>
      rw [hfa] at hrest
      obtain ⟨log, hgrowth⟩ := hgrows
      exact .after hgrowth hrest

namespace Grows

theorem pure {a : α} {post : α → Registry → Prop} (h : post a p.registry) :
    Grows catalog rule (pure a) p post := ⟨.refl p, h⟩

theorem imp {post post' : α → Registry → Prop} (h : Grows catalog rule x p post)
    (himp : ∀ a p', p.GrowsTo catalog rule p' → post a p'.registry → post' a p'.registry) :
    Grows catalog rule x p post' :=
  Ensures.imp h fun a p' hpost => ⟨hpost.1, himp a p' hpost.1 hpost.2⟩

theorem of_ok {post : α → Registry → Prop} {a : α} (h : Grows catalog rule x p post)
    (hx : x p = .ok a p') : p.GrowsTo catalog rule p' ∧ post a p'.registry := by
  unfold Grows Ensures at h
  rwa [hx] at h

theorem bind {mid : α → Registry → Prop} {post : β → Registry → Prop}
    (h : Grows catalog rule x p mid)
    (hf : ∀ a p', p.GrowsTo catalog rule p' → mid a p'.registry →
      Grows catalog rule (f a) p' post) :
    Grows catalog rule (x >>= f) p post := by
  refine Ensures.bind h fun a p' hgrows hmid => Ensures.imp (hf a p' hgrows hmid) ?_
  rintro b p'' ⟨hrest, hpost⟩
  exact ⟨hgrows.trans hrest, hpost⟩

theorem map {g : α → β} {post : α → Registry → Prop} {post' : β → Registry → Prop}
    (h : Grows catalog rule x p post) (himp : ∀ a r, post a r → post' (g a) r) :
    Grows catalog rule (g <$> x) p post' := by
  rw [map_eq_pure_bind]
  exact h.bind fun a p' _ hpost => .pure (himp a _ hpost)

/-- A larger rule allows the same growths. -/
theorem mono {post : α → Registry → Prop} (hrule : ∀ r c, rule r c → rule' r c)
    (h : Grows catalog rule x p post) : Grows catalog rule' x p post := by
  unfold Grows Ensures at h ⊢
  cases hx : x p with
  | ok a p' =>
    rw [hx] at h
    obtain ⟨⟨log, hgrowth⟩, hpost⟩ := h
    exact ⟨⟨log, hgrowth.mono hrule⟩, hpost⟩
  | error e p' =>
    rw [hx] at h
    exact Pass.Interrupted.mono hrule h

theorem throw {e : CompileError} {post : α → Registry → Prop} :
    Grows catalog rule (throw e : Resolving α) p post := Pass.Interrupted.here p

theorem throw_bind {e : CompileError} {post : β → Registry → Prop} :
    Grows catalog rule ((MonadExcept.throw e : Resolving α) >>= f) p post :=
  Pass.Interrupted.here p

theorem note {level : LogLevel} {message : String} {fields : List (String × LogValue)} :
    Grows catalog rule (note level message fields) p fun _ _ => True :=
  ⟨.of_quiet (Pass.quiet_record ..), trivial⟩

theorem modifyGet {change : Pass → α × Pass} {post : α → Registry → Prop}
    (hquiet : p.Quiet catalog (change p).2) (hpost : post (change p).1 p.registry) :
    Grows catalog rule (modifyGet change) p post := by
  refine ⟨.of_quiet hquiet, ?_⟩
  rwa [hquiet.registry]

end Grows

theorem Builds.bind {mid : α → Registry → Prop} {post : β → List Attachment → Registry → Prop}
    (h : Grows catalog rule x p mid)
    (hf : ∀ a p', p.GrowsTo catalog rule p' → mid a p'.registry →
      Builds catalog rule (f a) p' post) :
    Builds catalog rule (x >>= f) p post := by
  refine Ensures.bind h fun a p' hgrows hmid => Ensures.imp (hf a p' hgrows hmid) ?_
  rintro b _ ⟨p'', attachments, hrest, rfl, hpost⟩
  exact ⟨p'', attachments, hgrows.trans hrest, rfl, hpost⟩

/-- A result computed after attachments were handed out. -/
theorem Builds.bind_pure {g : α → β} {post : α → List Attachment → Registry → Prop}
    {post' : β → List Attachment → Registry → Prop} (h : Builds catalog rule x p post)
    (himp : ∀ a attachments p', p.GrowsTo catalog rule p' → post a attachments p'.registry →
      post' (g a) attachments p'.registry) :
    Builds catalog rule (x >>= fun a => pure (g a)) p post' := by
  unfold Builds Ensures at h ⊢
  cases hx : x p with
  | error e p' =>
    rw [hx] at h
    rw [bind_error hx]
    exact h
  | ok a p'' =>
    rw [hx] at h
    rw [bind_ok hx]
    obtain ⟨p', attachments, hgrows, rfl, hpost⟩ := h
    exact ⟨p', attachments, hgrows, rfl, himp a attachments p' hgrows hpost⟩

/-- A run that hands out nothing. -/
theorem Builds.of_grows {post : α → Registry → Prop}
    {post' : α → List Attachment → Registry → Prop} (h : Grows catalog rule x p post)
    (himp : ∀ a r, post a r → post' a [] r) : Builds catalog rule x p post' := by
  refine Ensures.imp h ?_
  rintro a p' ⟨hgrows, hpost⟩
  exact ⟨p', [], hgrows, rfl, himp a _ hpost⟩

section Construct

variable {preferred name : String} {origin : Origin} {build : Resolving Schema}
  {registry : Registry}

def claimed (p : Pass) (preferred name : String) (origin : Origin) (registry : Registry) : Pass :=
  { p with registry }.recordAll (Registry.renameEvent? preferred origin (.new name)).toList

theorem construct_existing
    (h : p.registry.claim preferred origin = .ok (.existing name, p.registry)) :
    construct preferred origin build p = .ok (.component name) p := by
  have hclaim : claim preferred origin p = .ok (.existing name) p := by
    simp [claim, h, Registry.renameEvent?, Pass.recordAll]
  exact bind_ok hclaim

theorem construct_new (h : p.registry.claim preferred origin = .ok (.new name, registry)) :
    construct preferred origin build p =
      (build >>= fun schema => define name schema >>= fun _ => pure (.component name))
        (claimed p preferred name origin registry) := by
  have hclaim : claim preferred origin p =
      .ok (.new name) (claimed p preferred name origin registry) := by
    simp [claim, h, claimed]
  exact bind_ok hclaim

theorem quiet_claimed : Pass.Quiet catalog { p with registry }
    (claimed p preferred name origin registry) := Pass.quiet_recordAll ..

/-- A build under a name just claimed, with the definition that follows it. -/
theorem grows_construct_new (hclaim : p.registry.claim preferred origin = .ok (.new name, registry))
    (hbuild : Builds catalog rule build (claimed p preferred name origin registry)
      fun schema attachments r => rule r ⟨preferred, name, origin, schema, attachments⟩) :
    Grows catalog rule (construct preferred origin build) p fun ref r =>
      r.reference? origin = some ref := by
  unfold Builds Ensures at hbuild
  unfold Grows Ensures
  rw [construct_new hclaim]
  cases hq : build (claimed p preferred name origin registry) with
  | error e p'' =>
    rw [hq] at hbuild
    rw [bind_error hq]
    exact .inside hclaim (.after (.quiet quiet_claimed) hbuild)
  | ok schema p'' =>
    rw [hq] at hbuild
    rw [bind_ok hq]
    obtain ⟨p', attachments, ⟨log, hgrowth⟩, rfl, hrule⟩ := hbuild
    have hbody : Pass.Growth catalog rule { p with registry } ([] ++ log) p' :=
      .append (.quiet quiet_claimed) hgrowth
    let c : Construction := ⟨preferred, name, origin, schema, attachments⟩
    have hname : (p'.complete c).registry.nameOf? origin = some name :=
      Pass.nameOf?_complete.trans (Pass.Growth.pending (c := c) hclaim hbody).1
    refine ⟨⟨_, .construct hclaim hbody hrule⟩, ?_⟩
    exact Registry.reference?_eq_some.mpr ⟨name, hname, rfl⟩

/-- An origin ends with a name. Unless it had one, the name is claimed, and the rule
asks for what is built under it. -/
theorem Grows.construct (hbuild : ∀ name p', p.Enrolls name origin p' →
      Builds catalog rule build p' fun schema attachments r =>
        rule r ⟨preferred, name, origin, schema, attachments⟩) :
    Grows catalog rule (construct preferred origin build) p fun ref r =>
      r.reference? origin = some ref := by
  cases hclaim : p.registry.claim preferred origin with
  | error e =>
    have hrun : Resolving.construct preferred origin build p = .error e p :=
      bind_error (by simp [claim, hclaim])
    unfold Grows Ensures
    rw [hrun]
    exact .here p
  | ok outcome =>
    obtain ⟨claim, registry⟩ := outcome
    obtain ⟨name, rfl, hname, rfl⟩ | ⟨name, rfl, hnone, hfree, rfl⟩ :=
      Registry.claim_cases hclaim
    · unfold Grows Ensures
      rw [construct_existing hclaim]
      exact ⟨.refl p, Registry.reference?_eq_some.mpr ⟨name, hname, rfl⟩⟩
    · have hquiet := fun catalog => @quiet_claimed catalog p preferred name origin
        (p.registry.enroll name origin)
      exact grows_construct_new hclaim (hbuild name _
        ⟨hnone, hfree, (hquiet catalog).registry, (hquiet _).faithful⟩)

end Construct

end Resolving

end RestContract
