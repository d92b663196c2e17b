import Mathlib.Data.List.Nodup
import RestContract.Proofs.Placeholders

/-!
The depth at which a declared type is first met. A name is claimed once, so the component
of a type is put together at the depth of its first meeting and kept from then on. The
members of a type without subtypes stand one level below it, at whatever depth that is:
a type that is first met near the depth limit shows placeholders where a type that is
first met at the top shows its members.

Resolution is followed from a root down to the first meeting. What is followed is that the
type has no name yet, or has a component made at one of the depths at which the root comes
to it.
-/
namespace RestContract

namespace TypeDescriptor

theorem isNamed_iff {t : TypeDescriptor} :
    t.isNamed = true ↔
      isAnyObject t = false ∧ isOptional t = false ∧ ContainerFamily.of? t = none := by
  simp [isNamed, and_assoc]

/-- The type is looked up by its name: it is no scalar, no wrapper and no container. -/
def isLookedUp (t : TypeDescriptor) : Bool :=
  t.isNamed && (match classify t with
    | .composite => true
    | _ => false)

theorem isLookedUp_iff {t : TypeDescriptor} :
    t.isLookedUp = true ↔ t.isNamed = true ∧ classify t = .composite := by
  unfold isLookedUp
  cases classify t <;> simp

theorem parts_of_isNamed {t : TypeDescriptor} (h : t.isNamed = true) : t.parts = [] := by
  obtain ⟨hany, hoptional, hfamily⟩ := isNamed_iff.mp h
  simp [parts, hany, hoptional, hfamily]

end TypeDescriptor

inductive Encounter where
  | type (t : TypeDescriptor)
  | declared (d : TypeDefinition)

/-- What the resolution of a root may come to, and at which depth, along chains that end
where they meet the type of the given name. -/
inductive Meets (catalog : TypeCatalog) (root : TypeDescriptor) (last : String) :
    Encounter → Nat → Prop
  | root : Meets catalog root last (.type root) 1
  | part {t inner : TypeDescriptor} {depth : Nat} :
      Meets catalog root last (.type t) depth → depth ≤ maxDepth → classify t = .composite →
      inner ∈ t.parts → Meets catalog root last (.type inner) (depth + 1)
  | named {t : TypeDescriptor} {d : TypeDefinition} {depth : Nat} :
      Meets catalog root last (.type t) depth → depth ≤ maxDepth → t.isLookedUp = true →
      catalog.lookup? t.name = some d → Meets catalog root last (.declared d) depth
  | member {d : TypeDefinition} {m : Member} {depth : Nat} :
      Meets catalog root last (.declared d) depth → d.name ≠ last → d.isEnum = false →
      catalog.subtypesOf d.name = [] ∨ d.isInterface = false → m ∈ d.serializedMembers →
      Meets catalog root last (.type m.type) (depth + 1)
  | subtype {d e : TypeDefinition} {name : String} {depth : Nat} :
      Meets catalog root last (.declared d) depth → d.name ≠ last → d.isEnum = false →
      name ∈ catalog.subtypesOf d.name → catalog.lookup? name = some e →
      Meets catalog root last (.declared e) (depth + 1)

/-- A declared type that is resolved at the root is met there and nowhere else. -/
theorem Meets.eq_one_of_own_root {catalog : TypeCatalog} {root : TypeDescriptor}
    {d : TypeDefinition} {encounter : Encounter} {depth : Nat}
    (h : Meets catalog root d.name encounter depth) (hroot : root.isLookedUp = true)
    (hlookup : catalog.lookup? root.name = some d) :
    depth = 1 ∧ (encounter = .type root ∨ encounter = .declared d) := by
  induction h with
  | root => exact ⟨rfl, .inl rfl⟩
  | part _ _ _ hinner ih =>
    obtain ⟨-, heq | heq⟩ := ih
    · cases heq
      rw [TypeDescriptor.parts_of_isNamed (TypeDescriptor.isLookedUp_iff.mp hroot).1] at hinner
      cases hinner
    · cases heq
  | named _ _ _ hd ih =>
    obtain ⟨rfl, heq | heq⟩ := ih
    · cases heq
      rw [hlookup] at hd
      cases hd
      exact ⟨rfl, .inr rfl⟩
    · cases heq
  | member _ hother _ _ _ ih =>
    obtain ⟨-, heq | heq⟩ := ih
    · cases heq
    · cases heq
      exact absurd rfl hother
  | subtype _ hother _ _ _ ih =>
    obtain ⟨-, heq | heq⟩ := ih
    · cases heq
    · cases heq
      exact absurd rfl hother

namespace Registry

open Attachment

variable {catalog : TypeCatalog} {d : TypeDefinition} {met : Nat → Prop} {r r' : Registry}
  {depth : Nat}

/-- The component of the type is the object of its members at the depth, with the
discriminators attached since. -/
def MadeAt (catalog : TypeCatalog) (d : TypeDefinition) (depth : Nat) (r : Registry) : Prop :=
  ∃ members attachments, r.IsMemberObject catalog d depth members ∧
    (∀ a ∈ attachments, catalog.Discriminates a.property) ∧
    r.schemaOf? (.type d.name) = some (applyAll attachments (members.withDescription d.name))

def Dated (catalog : TypeCatalog) (d : TypeDefinition) (met : Nat → Prop) (r : Registry) : Prop :=
  r.nameOf? (.type d.name) = none ∨ ∃ depth, met depth ∧ r.MadeAt catalog d depth

/-- Names are kept, and discriminators are all that the component takes. -/
theorem Dated.mono (h : r.Dated catalog d met) (hext : r.Extends r')
    (hname : r'.nameOf? (.type d.name) = r.nameOf? (.type d.name))
    {more : List Attachment} (hlabels : ∀ a ∈ more, catalog.Discriminates a.property)
    (hmore : r'.schemaOf? (.type d.name) = (r.schemaOf? (.type d.name)).map (applyAll more)) :
    r'.Dated catalog d met := by
  rcases h with hnone | ⟨depth, hmet, members, attachments, hmembers, hattached, hmade⟩
  · exact .inl (hname.trans hnone)
  · refine .inr ⟨depth, hmet, members, attachments ++ more, hmembers.mono hext, ?_, ?_⟩
    · exact fun a ha => (List.mem_append.mp ha).elim (hattached a) (hlabels a)
    · rw [hmore, hmade, applyAll_append]
      rfl

theorem Dated.mono_of_eq (h : r.Dated catalog d met) (hext : r.Extends r')
    (hname : r'.nameOf? (.type d.name) = r.nameOf? (.type d.name))
    (hsame : r'.schemaOf? (.type d.name) = r.schemaOf? (.type d.name)) :
    r'.Dated catalog d met := by
  have hmore : r'.schemaOf? (.type d.name) = (r.schemaOf? (.type d.name)).map (applyAll []) := by
    rw [hsame]
    cases r.schemaOf? (.type d.name) <;> rfl
  exact h.mono hext hname (by simp) hmore

end Registry

structure Pass.Kept (catalog : TypeCatalog) (d : TypeDefinition) (met : Nat → Prop)
    (p p' : Pass) : Prop where
  faithful : p'.Faithful catalog
  keeps : p.registry.Extends p'.registry
  dated : p.registry.Dated catalog d met → p'.registry.Dated catalog d met

namespace Pass.Kept

variable {catalog : TypeCatalog} {d : TypeDefinition} {met : Nat → Prop} {p p' p'' : Pass}
  {origin : Origin} {name : String}

theorem refl (hp : p.Faithful catalog) : Kept catalog d met p p := ⟨hp, .refl _, id⟩

theorem trans (h : Kept catalog d met p p') (h' : Kept catalog d met p' p'') :
    Kept catalog d met p p'' :=
  ⟨h'.faithful, h.keeps.trans h'.keeps, fun hdated => h'.dated (h.dated hdated)⟩

theorem of_quiet (hp : p.Faithful catalog) (h : p.Quiet catalog p') : Kept catalog d met p p' where
  faithful := h.faithful hp
  keeps := h.registry ▸ .refl _
  dated hdated := h.registry ▸ hdated

theorem attach (hp : p.Faithful catalog) {a : Attachment} (ha : catalog.Discriminates a.property) :
    Kept catalog d met p (p.attach a) where
  faithful := by
    intro base known hknown
    exact hp base known (attach_lookups (p := p) ▸ hknown)
  keeps origin name hname := by rw [attach_registry, Registry.nameOf?_take, hname]
  dated hdated := by
    have hname : ∀ origin, (p.attach a).registry.nameOf? origin = p.registry.nameOf? origin :=
      fun origin => by rw [attach_registry, Registry.nameOf?_take]
    have hlabels : ∀ b ∈ Attachment.aimedAt (.type d.name) [a], catalog.Discriminates b.property :=
      fun b hb => List.mem_singleton.mp (List.mem_filter.mp hb).1 ▸ ha
    refine hdated.mono (fun origin name h => (hname origin).trans h) (hname _) hlabels ?_
    rw [attach_registry, Registry.schemaOf?_take]
    by_cases htarget : a.target = .type d.name
    · rw [if_pos htarget, Attachment.aimedAt_cons_self htarget]
      rfl
    · rw [if_neg htarget, Attachment.aimedAt_cons_other htarget]
      cases p.registry.schemaOf? (.type d.name) <;> rfl

/-- A name taken for another origin. -/
theorem of_enrolls (hp : p.Faithful catalog) (hother : origin ≠ .type d.name)
    (h : p.Enrolls name origin p') : Kept catalog d met p p' where
  faithful := h.faithful hp
  keeps := h.keeps
  dated hdated := by
    refine hdated.mono_of_eq h.keeps ?_ (h.schemaOf?_eq _)
    rw [h.nameOf?_eq, if_neg hother.symm]

/-- A schema stored under the name of another origin. -/
theorem define (hp : p.Faithful catalog) (hother : origin ≠ .type d.name)
    (hname : p.registry.nameOf? origin = some name) (schema : Schema) :
    Kept catalog d met p { p with registry := p.registry.define name schema } where
  faithful := hp
  keeps _ _ h := h
  dated hdated := by
    refine hdated.mono_of_eq (fun _ _ h => h) rfl ?_
    rw [Registry.schemaOf?_define hname, if_neg hother.symm]

end Pass.Kept

namespace Resolving

variable {α β : Type} {catalog : TypeCatalog} {d : TypeDefinition} {met : Nat → Prop}
  {x : Resolving α} {f : α → Resolving β} {p : Pass} {r : Registry}

/-- Where the run succeeds, it leads to a pass that follows. -/
def Follows (catalog : TypeCatalog) (d : TypeDefinition) (met : Nat → Prop) (x : Resolving α)
    (p : Pass) : Prop :=
  ∀ a p', x p = .ok a p' → p.Kept catalog d met p'

def FollowsAbove (catalog : TypeCatalog) (d : TypeDefinition) (met : Nat → Prop) (r : Registry)
    (x : Resolving α) : Prop :=
  ∀ p, p.Faithful catalog → r.Extends p.registry → Follows catalog d met x p

namespace Follows

theorem pure (hp : p.Faithful catalog) (a : α) : Follows catalog d met (pure a) p := by
  intro _ _ hrun
  cases hrun
  exact .refl hp

theorem modifyGet {change : Pass → α × Pass} (h : p.Kept catalog d met (change p).2) :
    Follows catalog d met (modifyGet change) p := by
  intro _ _ hrun
  cases hrun
  exact h

theorem bind_of_ok (h : Follows catalog d met x p)
    (hf : ∀ a p', x p = .ok a p' → p'.Faithful catalog → Follows catalog d met (f a) p') :
    Follows catalog d met (x >>= f) p := by
  intro b p'' hrun
  obtain ⟨a, p', hx, hrest⟩ := bind_eq_ok hrun
  have hkept := h a p' hx
  exact hkept.trans (hf a p' hx hkept.faithful b p'' hrest)

/-- The component of another origin, built where that has its name. -/
theorem construct {preferred : String} {origin : Origin} {build : Resolving Schema}
    (hp : p.Faithful catalog) (hother : origin ≠ .type d.name)
    (h : ∀ name p', p.Enrolls name origin p' → FollowsAbove catalog d met p'.registry build) :
    Follows catalog d met (construct preferred origin build) p := by
  intro ref p' hrun
  obtain ⟨claim, p₁, hclaim, hrest⟩ := bind_eq_ok hrun
  obtain ⟨name, rfl, rfl⟩ | ⟨name, rfl, henrolls⟩ := claim_ok_cases hclaim
  · cases hrest
    exact .refl hp
  · obtain ⟨schema, p₂, hbuild, hlast⟩ := bind_eq_ok hrest
    have hclaimed : p.Kept catalog d met p₁ := .of_enrolls hp hother henrolls
    have hbuilt := h name p₁ henrolls p₁ hclaimed.faithful (.refl _) schema p₂ hbuild
    have hname := hbuilt.keeps _ _ henrolls.nameOf?
    cases hlast
    exact (hclaimed.trans hbuilt).trans (.define hbuilt.faithful hother hname schema)

end Follows

namespace FollowsAbove

theorem of_extends {r' : Registry} (h : FollowsAbove catalog d met r x) (hext : r.Extends r') :
    FollowsAbove catalog d met r' x := fun p hp hp' => h p hp (hext.trans hp')

theorem bind (h : FollowsAbove catalog d met r x)
    (hf : ∀ a, FollowsAbove catalog d met r (f a)) : FollowsAbove catalog d met r (x >>= f) :=
  fun p hp hext => (h p hp hext).bind_of_ok fun a p' hx hp' =>
    hf a p' hp' (hext.trans (h p hp hext a p' hx).keeps)

/-- Following is respected by resolution, as long as other components are made. -/
theorem congruence (catalog : TypeCatalog) (d : TypeDefinition) (met : Nat → Prop)
    (r : Registry) :
    Congruence catalog catalog (fun origin => origin ≠ .type d.name)
      (fun name direct => direct = catalog.subtypesOf name)
      fun x _ => FollowsAbove catalog d met r x where
  pure a _ hp _ := .pure hp a
  bind := bind
  note _ _ _ p hp _ := .modifyGet (.of_quiet hp (Pass.quiet_record ..))
  construct hother hbuild _ hp hext := .construct hp hother fun _ _ henrolls =>
    hbuild.of_extends (hext.trans henrolls.keeps)
  lookup := by
    intro β base f g h p hp hext
    have hkept : p.Kept catalog d met (p.subtypesOf catalog base).2 :=
      .of_quiet hp (Pass.quiet_subtypesOf catalog p base)
    refine Follows.bind_of_ok (.modifyGet hkept) fun direct p' hrun hp' => ?_
    cases hrun
    exact h _ (hp.subtypesOf_eq base) _ hp' (hext.trans hkept.keeps)
  descendants _ p hp _ := .modifyGet (.of_quiet hp (descendantsFrom_spec hp).2)
  attach _ ha _ hp _ := .modifyGet (.attach hp ha)

end FollowsAbove

end Resolving

structure TypeCatalog.IsLeaf (catalog : TypeCatalog) (d : TypeDefinition) : Prop where
  declared : d ∈ catalog.definitions
  notEnum : d.isEnum = false
  childless : catalog.subtypesOf d.name = []

structure Resolver.Follows (catalog : TypeCatalog) (d : TypeDefinition) (met : Nat → Prop)
    (root : TypeDescriptor) (levels : Nat) (resolver : Resolver) : Prop where
  resolve : ∀ t depth p, p.Faithful catalog → catalog.room p.registry depth < levels →
    Meets catalog root d.name (.type t) depth →
    Resolving.Follows catalog d met (resolver.resolve t depth) p
  subtype : ∀ name depth p, p.Faithful catalog → catalog.room p.registry depth < levels →
    (∀ e, catalog.lookup? name = some e → Meets catalog root d.name (.declared e) depth) →
    Resolving.Follows catalog d met (resolver.subtype name depth) p

namespace Resolver

open Resolving

variable {catalog : TypeCatalog} {d e : TypeDefinition} {met : Nat → Prop}
  {root t : TypeDescriptor} {resolver : Resolver} {levels depth : Nat} {registry : Registry}
  {name : String} {p : Pass}

/-- The component of a leaf, with the depth at which its members stand. -/
theorem grows_leaf (hleaf : catalog.IsLeaf d) (hr : resolver.Sound catalog levels)
    (hp : p.Faithful catalog) (hroom : catalog.room p.registry (depth + 1) < levels) :
    Grows catalog (Lawful catalog) (resolver.component catalog d depth) p fun schema r =>
      ∃ members, r.IsMemberObject catalog d depth members ∧
        schema = members.withDescription d.name := by
  have hlookup : Grows catalog (Lawful catalog) (subtypesOf catalog d.name) p
      fun direct _ => direct = [] :=
    .modifyGet (Pass.quiet_subtypesOf catalog p d.name)
      ((hp.subtypesOf_eq d.name).trans hleaf.childless)
  refine hlookup.bind fun direct p₁ hgrows hdirect => ?_
  subst hdirect
  have hsetting := setting_roomy catalog (depth + 1) levels
  have hp₁ := hsetting.grows p p₁ ⟨hp, hroom⟩ hgrows
  refine (grows_memberObject hsetting hp₁ fun m _ => hr.places m.type (depth + 1)).bind
    fun members p₂ _ hmembers => .pure ⟨members, hmembers, rfl⟩

/-- The first meeting: the component is made of the members one level down. -/
theorem follows_leaf (hleaf : catalog.IsLeaf d) (hr : resolver.Sound catalog levels)
    (hp : p.Faithful catalog) (hroom : catalog.room p.registry depth < levels + 1)
    (hmet : met depth) : Resolving.Follows catalog d met (resolver.declared catalog d depth) p := by
  intro ref p' hrun
  simp only [declared, hleaf.notEnum, Bool.false_eq_true, if_false] at hrun
  obtain ⟨claim, p₁, hclaim, hrest⟩ := bind_eq_ok hrun
  obtain ⟨name, rfl, rfl⟩ | ⟨name, rfl, henrolls⟩ := claim_ok_cases hclaim
  · cases hrest
    exact .refl hp
  obtain ⟨schema, p₂, hcomponent, hlast⟩ := bind_eq_ok hrest
  have hp₁ := henrolls.faithful hp
  have hroom₁ : catalog.room p₁.registry (depth + 1) < levels :=
    TypeCatalog.room_lt hroom hleaf.declared henrolls
  obtain ⟨hgrows, members, hmembers, rfl⟩ := (grows_leaf hleaf hr hp₁ hroom₁).of_ok hcomponent
  have hp₂ := hgrows.faithful hp₁
  have hkeeps := hgrows.keeps
  have hname := hkeeps _ _ henrolls.nameOf?
  cases hlast
  refine ⟨hp₂, henrolls.keeps.trans hkeeps,
    fun _ => .inr ⟨depth, hmet, members, [], ?_, by simp, ?_⟩⟩
  · exact hmembers.mono fun _ _ h => h
  · exact (Registry.schemaOf?_define hname _).trans (if_pos rfl)

namespace Follows

theorem resolve_above (h : Follows catalog d met root levels resolver)
    (hroom : catalog.room registry depth < levels)
    (hmeets : Meets catalog root d.name (.type t) depth) :
    FollowsAbove catalog d met registry (resolver.resolve t depth) := fun p hp hext =>
  h.resolve t depth p hp (Nat.lt_of_le_of_lt (TypeCatalog.room_mono hext) hroom) hmeets

theorem subtype_above (h : Follows catalog d met root levels resolver)
    (hroom : catalog.room registry depth < levels)
    (hmeets : ∀ e, catalog.lookup? name = some e →
      Meets catalog root d.name (.declared e) depth) :
    FollowsAbove catalog d met registry (resolver.subtype name depth) := fun p hp hext =>
  h.subtype name depth p hp (Nat.lt_of_le_of_lt (TypeCatalog.room_mono hext) hroom) hmeets

section Level

variable (hleaf : catalog.IsLeaf d)
  (hmet : ∀ depth, Meets catalog root d.name (.declared d) depth → met depth)
  (hr : resolver.Sound catalog levels) (h : Follows catalog d met root levels resolver)

include hleaf hmet hr h

theorem declared (hroom : catalog.room registry depth < levels + 1)
    (he : e ∈ catalog.definitions) (hmeets : Meets catalog root d.name (.declared e) depth) :
    FollowsAbove catalog d met registry (resolver.declared catalog e depth) := by
  intro p hp hext
  have hbefore := Nat.lt_of_le_of_lt (TypeCatalog.room_mono hext) hroom
  by_cases hname : e.name = d.name
  · cases TypeCatalog.eq_of_name_eq he hleaf.declared hname
    exact follows_leaf hleaf hr hp hbefore (hmet depth hmeets)
  by_cases henum : e.isEnum = true
  · rw [Resolver.declared, if_pos henum]
    exact .pure hp _
  rw [Resolver.declared, if_neg henum]
  refine .construct hp (fun heq => hname (Origin.type.inj heq)) fun claimed q henrolls => ?_
  have hinside := TypeCatalog.room_lt hbefore he henrolls
  refine @related_component catalog catalog _ _ _ resolver resolver e depth
    (FollowsAbove.congruence catalog d met _) he (fun hopen m hm => ?_) ?_
  · exact h.resolve_above hinside
      (hmeets.member hname (Bool.eq_false_iff.mpr henum) (hopen.imp_left Eq.symm) hm)
  · rintro direct rfl name hdirect
    exact h.subtype_above hinside fun e' he' =>
      hmeets.subtype hname (Bool.eq_false_iff.mpr henum) hdirect he'

theorem named (hroom : catalog.room registry depth < levels + 1)
    (hmeets : ∀ e, catalog.lookup? t.name = some e →
      Meets catalog root d.name (.declared e) depth) :
    FollowsAbove catalog d met registry (resolver.named catalog t depth) := by
  refine @related_named catalog catalog _ _ resolver resolver t depth
    (FollowsAbove.congruence catalog d met registry).toSteps rfl (fun hnone heq => ?_)
    fun e hlookup =>
      h.declared hleaf hmet hr hroom (TypeCatalog.mem_of_lookup? hlookup) (hmeets e hlookup)
  rw [Origin.type.inj heq, TypeCatalog.lookup?_name hleaf.declared] at hnone
  cases hnone

theorem step : Follows catalog d met root (levels + 1) (resolver.step catalog) where
  subtype name depth p hp hroom hmeets :=
    h.named hleaf hmet hr hroom hmeets p hp (.refl _)
  resolve t depth p hp hroom hmeets := by
    have hsteps := (FollowsAbove.congruence catalog d met p.registry).toSteps
    refine @related_any catalog catalog _ _ resolver resolver t depth hsteps
      (fun hdepth hclass => ?_) p hp (.refl _)
    have hinside : catalog.room p.registry (depth + 1) < levels := by
      unfold TypeCatalog.room at hroom ⊢
      omega
    refine @related_composite catalog catalog _ _ resolver resolver t depth hsteps
      (fun _ _ _ heq => by cases heq) (fun inner hinner => ?_)
      fun hnamed => h.named hleaf hmet hr hroom fun e hlookup => ?_
    · exact h.resolve_above hinside (hmeets.part hdepth hclass hinner)
    · exact hmeets.named hdepth (TypeDescriptor.isLookedUp_iff.mpr ⟨hnamed, hclass⟩) hlookup

end Level

theorem ofLevels (hleaf : catalog.IsLeaf d)
    (hmet : ∀ depth, Meets catalog root d.name (.declared d) depth → met depth) (levels : Nat) :
    Follows catalog d met root levels (Resolver.ofLevels catalog levels) := by
  induction levels with
  | zero => exact ⟨fun _ _ _ _ h => absurd h (by omega), fun _ _ _ _ h => absurd h (by omega)⟩
  | succ levels ih => exact ih.step hleaf hmet (sound_ofLevels catalog levels)

end Follows

end Resolver

def resolveRoots (catalog : TypeCatalog) : List TypeDescriptor → Resolving (List SchemaRef)
  | [] => return []
  | t :: rest => do
      let ref ← resolveRoot catalog t
      let others ← resolveRoots catalog rest
      return ref :: others

section Roots

open Resolving

variable {catalog : TypeCatalog} {d : TypeDefinition} {met : Nat → Prop} {p : Pass}

theorem follows_resolveRoot {root : TypeDescriptor} (hleaf : catalog.IsLeaf d)
    (hmet : ∀ depth, Meets catalog root d.name (.declared d) depth → met depth)
    (hp : p.Faithful catalog) : Follows catalog d met (resolveRoot catalog root) p :=
  (Resolver.Follows.ofLevels hleaf hmet _).resolve root 1 p hp
    (TypeCatalog.room_lt_full (Nat.le_refl 1)) .root

theorem follows_resolveRoots {roots : List TypeDescriptor} (hleaf : catalog.IsLeaf d)
    (hmet : ∀ root ∈ roots, ∀ depth, Meets catalog root d.name (.declared d) depth → met depth)
    (hp : p.Faithful catalog) : Follows catalog d met (resolveRoots catalog roots) p := by
  induction roots generalizing p with
  | nil => exact .pure hp _
  | cons root rest ih =>
    obtain ⟨hfirst, hrest⟩ := List.forall_mem_cons.mp hmet
    refine (follows_resolveRoot hleaf hfirst hp).bind_of_ok fun _ p₁ _ hp₁ => ?_
    exact (ih hrest hp₁).bind_of_ok fun _ _ _ hp₂ => .pure hp₂ _

end Roots

namespace Registry

open Attachment

variable {catalog : TypeCatalog} {d : TypeDefinition} {r : Registry} {depth : Nat} {m : Member}

theorem IsMemberObject.property {members : Schema} (h : r.IsMemberObject catalog d depth members)
    (hnames : (d.serializedMembers.map Member.name).Nodup) (hm : m ∈ d.serializedMembers) :
    ∃ property, members.propertyMap.get? m.name = some property ∧
      r.position? catalog m.type (depth + 1) = some property := by
  have hkey := (h.mem_keys m.name).mpr (List.mem_map_of_mem hm)
  obtain ⟨property, hproperty⟩ :=
    Option.isSome_iff_exists.mp ((SortedMap.contains_iff_mem_keys ..).mpr hkey)
  obtain ⟨placed, hplaced, rfl⟩ := h
  refine ⟨property, hproperty, ?_⟩
  have hmem := SortedMap.mem_entries_ofList (SortedMap.mem_entries_of_get? hproperty)
  obtain ⟨m', hm', hname, hposition⟩ := exists_related_of_mem hplaced hmem
  cases List.inj_on_of_nodup_map hnames hm hm' hname
  exact hposition

/-- A component made at a depth has each member at the position one level further down,
unless a discriminator of the same name came over it. -/
theorem MadeAt.property (h : r.MadeAt catalog d depth)
    (hnames : (d.serializedMembers.map Member.name).Nodup) :
    ∃ schema, r.schemaOf? (.type d.name) = some schema ∧ ∀ m ∈ d.serializedMembers,
      ∃ property, schema.propertyMap.get? m.name = some property ∧
        (property = .inline Schema.string ∧ catalog.Discriminates m.name ∨
          r.position? catalog m.type (depth + 1) = some property) := by
  obtain ⟨members, attachments, hmembers, hattached, hschema⟩ := h
  refine ⟨_, hschema, fun m hm => ?_⟩
  obtain ⟨property, hproperty, hposition⟩ := hmembers.property hnames hm
  have hplain : (members.withDescription d.name).isPlainObject = true := by
    obtain ⟨placed, -, rfl⟩ := hmembers
    rfl
  by_cases hlabel : ∃ a ∈ attachments, a.property = m.name
  · obtain ⟨a, ha, hname⟩ := hlabel
    rw [← hname]
    exact ⟨_, get?_applyAll_property hplain ha, .inl ⟨rfl, hattached a ha⟩⟩
  · have hsame := get?_applyAll_of_ne hplain fun a ha hname => hlabel ⟨a, ha, hname⟩
    exact ⟨property, hsame.trans hproperty, .inr hposition⟩

end Registry

namespace Resolver

variable {catalog : TypeCatalog} {t : TypeDescriptor} {depth : Nat} {r : Registry}
  {ref : SchemaRef}

/-- A placeholder at a depth is one in every pass, and at the other depth too unless the
limit was met among the optional layers. -/
theorem full_resolve_freeForm (h : r.position? catalog t depth = some ref)
    (hplaceholder : ref.isPlaceholder = true) {other : Nat} (hother : 1 ≤ other)
    (hshallow : other = depth ∨ depth + optionalLayers t ≤ maxDepth) (p : Pass) :
    ∃ p', (full catalog).resolve t other p = .ok freeForm p' := by
  rw [full_resolve_eq_complete catalog t hother]
  refine complete_resolve_freeForm t other p ?_
  rcases Registry.layers_or_opaque_of_placeholder h hplaceholder with hlayers | hopaque
  · rcases hshallow with rfl | hshallow
    · exact .inl hlayers
    · omega
  · exact .inr hopaque

end Resolver

section Leaf

open Resolving

variable {catalog : TypeCatalog} {d : TypeDefinition} {met : Nat → Prop} {ref : SchemaRef}
  {p p' : Pass}

theorem position?_of_isLookedUp {t : TypeDescriptor} {r : Registry} {depth : Nat}
    (h : t.isLookedUp = true) (hdepth : depth ≤ maxDepth) :
    r.position? catalog t depth = r.namedPosition? catalog t.name := by
  obtain ⟨hnamed, hclass⟩ := TypeDescriptor.isLookedUp_iff.mp h
  obtain ⟨hany, hoptional, hfamily⟩ := TypeDescriptor.isNamed_iff.mp hnamed
  simp [Registry.position?_of_shallow hdepth, hclass, Registry.compositePosition?, hany,
    hoptional, hfamily]

theorem any_of_isLookedUp {r : Resolver} {t : TypeDescriptor} {depth : Nat}
    (h : t.isLookedUp = true) (hdepth : depth ≤ maxDepth) :
    r.any catalog t depth = r.named catalog t depth := by
  obtain ⟨hnamed, hclass⟩ := TypeDescriptor.isLookedUp_iff.mp h
  obtain ⟨hany, hoptional, hfamily⟩ := TypeDescriptor.isNamed_iff.mp hnamed
  simp [Resolver.any, Nat.not_lt.mpr hdepth, hclass, Resolver.composite, hany, hoptional, hfamily]

/-- A type that has its component is resolved by its name alone. -/
theorem resolveRoot_of_known {name : String} (hleaf : catalog.IsLeaf d)
    (hlookedUp : (TypeDescriptor.ofName d.name).isLookedUp = true)
    (hname : p.registry.nameOf? (.type d.name) = some name) :
    resolveRoot catalog (.ofName d.name) p = .ok (.component name) p := by
  have hlookup := TypeCatalog.lookup?_name hleaf.declared
  have hclaim : p.registry.claim d.simpleName (.type d.name) =
      .ok (.existing name, p.registry) := by
    simp [Registry.claim, hname]
  rw [resolveRoot, Resolver.full_resolve_eq_complete catalog _ (Nat.le_refl 1),
    Resolver.complete_resolve, any_of_isLookedUp hlookedUp (by decide)]
  have hnamed : (Resolver.complete catalog).named catalog (.ofName d.name) 1 =
      (Resolver.complete catalog).declared catalog d 1 := by
    simp [Resolver.named, TypeDescriptor.ofName, hlookup]
  rw [hnamed, Resolver.declared, hleaf.notEnum]
  exact construct_existing hclaim

/-- After its own root, a leaf is referred to by its name, and its component was made at
that root or before. -/
theorem madeAt_of_resolveRoot (hleaf : catalog.IsLeaf d) (hp : p.Faithful catalog)
    (hlookedUp : (TypeDescriptor.ofName d.name).isLookedUp = true)
    (hdated : p.registry.Dated catalog d met)
    (h : resolveRoot catalog (.ofName d.name) p = .ok ref p') :
    ∃ name depth, ref = .component name ∧ p'.registry.nameOf? (.type d.name) = some name ∧
      p'.registry.MadeAt catalog d depth ∧
      (p.registry.nameOf? (.type d.name) = none → depth = 1) ∧
      (p.registry.nameOf? (.type d.name) ≠ none → met depth) := by
  have hlookup := TypeCatalog.lookup?_name hleaf.declared
  cases hname : p.registry.nameOf? (.type d.name) with
  | some name =>
    rw [resolveRoot_of_known hleaf hlookedUp hname] at h
    cases h
    rcases hdated with hnone | ⟨depth, hmet, hmade⟩
    · rw [hname] at hnone
      cases hnone
    · exact ⟨name, depth, rfl, hname, hmade, by simp, fun _ => hmet⟩
  | none =>
    obtain ⟨-, hposition⟩ := (grows_resolveRoot hp (.ofName d.name)).of_ok h
    have hreference : p'.registry.reference? (.type d.name) = some ref := by
      rw [position?_of_isLookedUp hlookedUp (by decide)] at hposition
      simpa [Registry.namedPosition?, TypeDescriptor.ofName, hlookup, hleaf.notEnum] using hposition
    obtain ⟨name, hname', rfl⟩ := Registry.reference?_eq_some.mp hreference
    have hkept := @follows_resolveRoot catalog d (· = 1) p (.ofName d.name) hleaf
      (fun depth hmeets => (hmeets.eq_one_of_own_root hlookedUp hlookup).1) hp _ p' h
    rcases hkept.dated (.inl hname) with hnone | ⟨depth, hdepth, hmade⟩
    · rw [hname'] at hnone
      cases hnone
    · exact ⟨name, depth, rfl, hname', hmade, fun _ => hdepth, by simp⟩

end Leaf

open Resolver in
/-- The members of a type without subtypes stand one level below its first meeting. If the
type had no component when it was resolved as a root, that was its first meeting; else it
stands at the depth below one of the earlier roots. Each member stands at the position of its
type there, or is the text of a discriminator of its name. It is a placeholder only if its
type resolves to one at that level in a fresh pass, and, unless the depth limit was met on
the way, only if it does so right below a root. -/
theorem leaf_placeholder_of_first_meeting (definitions : List TypeDefinition)
    (policy : CollisionPolicy) (roots : List TypeDescriptor) (d : TypeDefinition)
    (hd : d ∈ (TypeCatalog.ofList definitions).definitions) (henum : d.isEnum = false)
    (hchildless : (TypeCatalog.ofList definitions).subtypesOf d.name = [])
    (hlookedUp : (TypeDescriptor.ofName d.name).isLookedUp = true)
    (hnames : (d.serializedMembers.map Member.name).Nodup)
    (refs : List SchemaRef) (p : Pass)
    (hroots : resolveRoots (.ofList definitions) roots (.start policy) = .ok refs p)
    (ref : SchemaRef) (p' : Pass)
    (hroot : resolveRoot (.ofList definitions) (.ofName d.name) p = .ok ref p') :
    ∃ name schema depth, ref = .component name ∧
      p'.registry.nameOf? (.type d.name) = some name ∧ p'.registry.get? name = some schema ∧
      (p.registry.nameOf? (.type d.name) = none → depth = 1) ∧
      (p.registry.nameOf? (.type d.name) ≠ none → ∃ root ∈ roots,
        Meets (.ofList definitions) root d.name (.declared d) depth) ∧
      ∀ m ∈ d.serializedMembers, ∃ property, schema.propertyMap.get? m.name = some property ∧
        (property = .inline Schema.string ∧ (TypeCatalog.ofList definitions).Discriminates m.name ∨
          p'.registry.position? (.ofList definitions) m.type (depth + 1) = some property) ∧
        (property.isPlaceholder = true →
          (∃ q, (full (.ofList definitions)).resolve m.type (depth + 1) (.start policy) =
            .ok freeForm q) ∧
          (depth + 1 + optionalLayers m.type ≤ maxDepth →
            ∃ q, (full (.ofList definitions)).resolve m.type 2 (.start policy) =
              .ok freeForm q)) := by
  have hleaf : (TypeCatalog.ofList definitions).IsLeaf d := ⟨hd, henum, hchildless⟩
  have hmet : ∀ root ∈ roots, ∀ depth,
      Meets (.ofList definitions) root d.name (.declared d) depth →
        ∃ root ∈ roots, Meets (.ofList definitions) root d.name (.declared d) depth :=
    fun root hmem depth hmeets => ⟨root, hmem, hmeets⟩
  have hkept := follows_resolveRoots hleaf hmet (.start _ policy) refs p hroots
  obtain ⟨name, depth, href, hname, hmade, hfirst, hearlier⟩ :=
    madeAt_of_resolveRoot hleaf hkept.faithful hlookedUp (hkept.dated (.inl rfl)) hroot
  obtain ⟨schema, hschema, hproperties⟩ := hmade.property hnames
  refine ⟨name, schema, depth, href, hname, ?_, hfirst, hearlier, fun m hm => ?_⟩
  · rw [← Registry.schemaOf?_of_nameOf? hname, hschema]
  · obtain ⟨property, hproperty, hcases⟩ := hproperties m hm
    refine ⟨property, hproperty, hcases, fun hplaceholder => ?_⟩
    rcases hcases with ⟨rfl, -⟩ | hposition
    · cases hplaceholder
    · exact ⟨full_resolve_freeForm hposition hplaceholder (by omega) (.inl rfl) _, fun hshallow =>
        full_resolve_freeForm hposition hplaceholder (by omega) (.inr hshallow) _⟩

-- A type that is first met at the depth limit.
namespace Tags

def label : Member := ⟨"label", .ofName "java.lang.String", false, false⟩

def tag : TypeDefinition where
  name := "org.acme.Tag"
  members := [label]

abbrev catalog : TypeCatalog := .ofList [tag]

def lists : Nat → TypeDescriptor
  | 0 => .ofName tag.name
  | layers + 1 => ⟨"java.util.List", [lists layers]⟩

/-- The tag as a root, after a root that has it inside lists, with the name it had before. -/
def visit : Resolving (Option String) := do
  let _ ← resolveRoots catalog [lists 31]
  let known := (← get).registry.nameOf? (.type tag.name)
  let _ ← resolveRoot catalog (.ofName tag.name)
  return known

def visited? : Option (Option String × Pass) :=
  match visit (.start .error) with
  | .ok known p => some (known, p)
  | .error _ _ => none

def findings? : Option (Option String × Bool) :=
  visited?.bind fun result =>
    (result.2.registry.schemaOf? (.type tag.name)).bind fun schema =>
      (schema.propertyMap.get? label.name).map fun property => (result.1, property.isPlaceholder)

open Resolving in
theorem exists_visit : ∃ refs p ref p' schema property,
    resolveRoots catalog [lists 31] (.start .error) = .ok refs p ∧
    p.registry.nameOf? (.type tag.name) = some "Tag" ∧
    resolveRoot catalog (.ofName tag.name) p = .ok ref p' ∧
    p'.registry.schemaOf? (.type tag.name) = some schema ∧
    schema.propertyMap.get? label.name = some property ∧ property.isPlaceholder = true := by
  have hfindings : findings? = some (some "Tag", true) := by decide +kernel
  obtain ⟨⟨known, p'⟩, hvisited, hrest⟩ := Option.bind_eq_some_iff.mp hfindings
  obtain ⟨schema, hschema, hlast⟩ := Option.bind_eq_some_iff.mp hrest
  obtain ⟨property, hproperty, hfound⟩ := Option.map_eq_some_iff.mp hlast
  injection hfound with hknown hplaceholder
  unfold visited? at hvisited
  split at hvisited
  next known' q hvisit =>
    cases hvisited
    obtain ⟨refs, p, hroots, hafter⟩ := bind_eq_ok hvisit
    obtain ⟨middle, q, hget, hvisit'⟩ := bind_eq_ok hafter
    cases hget
    obtain ⟨ref, q', hroot, hreturn⟩ := bind_eq_ok hvisit'
    cases hreturn
    exact ⟨refs, p, ref, _, schema, property, hroots, hknown, hroot, hschema, hproperty,
      hplaceholder⟩
  next => cases hvisited

theorem tag_leaf : tag ∈ catalog.definitions ∧ tag.isEnum = false ∧
    catalog.subtypesOf tag.name = [] ∧ (TypeDescriptor.ofName tag.name).isLookedUp = true ∧
    (tag.serializedMembers.map Member.name).Nodup ∧ label ∈ tag.serializedMembers := by
  decide +kernel

open Resolver in
/-- The tag is first met inside the lists, at the depth limit, and its label is hidden there
as in a fresh pass. -/
theorem tag_placeholder_of_first_meeting :
    ∃ refs p ref p', resolveRoots catalog [lists 31] (.start .error) = .ok refs p ∧
      resolveRoot catalog (.ofName tag.name) p = .ok ref p' ∧
      ∃ name schema depth property, ref = .component name ∧
        p'.registry.get? name = some schema ∧
        Meets catalog (lists 31) tag.name (.declared tag) depth ∧
        schema.propertyMap.get? label.name = some property ∧ property.isPlaceholder = true ∧
        ∃ q, (full catalog).resolve label.type (depth + 1) (.start .error) = .ok freeForm q := by
  obtain ⟨refs, p, ref, p', schema, property, hroots, hknown, hroot, hschema, hproperty,
    hplaceholder⟩ := exists_visit
  obtain ⟨hd, henum, hchildless, hlookedUp, hnames, hlabel⟩ := tag_leaf
  obtain ⟨name, schema', depth, href, hname, hget, -, hearlier, hmembers⟩ :=
    leaf_placeholder_of_first_meeting [tag] .error [lists 31] tag hd henum hchildless hlookedUp
      hnames refs p hroots ref p' hroot
  obtain ⟨property', hproperty', -, hfresh⟩ := hmembers label hlabel
  rw [← Registry.schemaOf?_of_nameOf? hname, hschema] at hget
  cases hget
  rw [hproperty] at hproperty'
  cases hproperty'
  refine ⟨refs, p, ref, p', hroots, hroot, name, schema, depth, property, href, ?_, ?_, hproperty,
    hplaceholder, (hfresh hplaceholder).1⟩
  · rw [← Registry.schemaOf?_of_nameOf? hname, hschema]
  · obtain ⟨root, hmem, hmeets⟩ := hearlier (by simp [hknown])
    cases List.mem_singleton.mp hmem
    exact hmeets

open Resolver in
/-- The component of the tag has a placeholder for its label, although the type of the label
resolves to no placeholder right below a root. -/
theorem label_hidden_by_depth_of_first_meeting :
    (tag ∈ catalog.definitions ∧ tag.isEnum = false ∧ catalog.subtypesOf tag.name = [] ∧
      (TypeDescriptor.ofName tag.name).isLookedUp = true ∧
      (tag.serializedMembers.map Member.name).Nodup ∧ label ∈ tag.serializedMembers) ∧
    (∃ refs p ref p' schema property,
      resolveRoots catalog [lists 31] (.start .error) = .ok refs p ∧
      p.registry.nameOf? (.type tag.name) = some "Tag" ∧
      resolveRoot catalog (.ofName tag.name) p = .ok ref p' ∧
      p'.registry.schemaOf? (.type tag.name) = some schema ∧
      schema.propertyMap.get? label.name = some property ∧ property.isPlaceholder = true) ∧
    ∀ policy, ∃ ref q, (full catalog).resolve label.type 2 (.start policy) = .ok ref q ∧
      ref.isPlaceholder = false := by
  refine ⟨tag_leaf, exists_visit, fun policy => ?_⟩
  have hclass : classify label.type = .scalar Schema.string := by rfl
  rw [full_resolve_eq_complete catalog _ (by decide), complete_resolve, any, hclass]
  exact ⟨_, _, rfl, rfl⟩

end Tags

end RestContract
