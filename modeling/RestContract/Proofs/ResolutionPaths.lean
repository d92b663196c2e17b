import RestContract.Proofs.FirstMeetings

/-!
The two ways to come to a declared type. A member, a parameter or a type argument is
resolved by a name that may mean something else than a declared type: a scalar, an object,
an optional or a container, which are recognised first. A direct subtype of a base is looked
up at once. Where nothing else is recognised in the name the two ways are one, and whichever
is taken first in a pass, the other one then finds what the first has left. Where something
is recognised, the name stands for a schema in place that is never the alternative.
-/
namespace RestContract

namespace Resolving

variable {p p' : Pass} {origin : Origin} {preferred name : String} {build : Resolving Schema}
  {ref : SchemaRef}

theorem construct_of_known (h : p.registry.nameOf? origin = some name) :
    construct preferred origin build p = .ok (.component name) p :=
  construct_existing (by simp [Registry.claim, h])

theorem nameOf?_of_claim_existing (h : claim preferred origin p = .ok (.existing name) p') :
    p.registry.nameOf? origin = some name := by
  unfold claim at h
  split at h
  · cases h
  next claim' registry hclaim =>
    cases h
    obtain ⟨known, hknown, hname, -⟩ | ⟨fresh, hfresh, -⟩ := Registry.claim_cases hclaim
    · cases hknown
      exact hname
    · cases hfresh

/-- A component is known by the name in the reference to it, if its schema was built without
giving up names. -/
theorem nameOf?_of_construct
    (hkeeps : ∀ q schema q', build q = .ok schema q' → q.registry.Extends q'.registry)
    (h : construct preferred origin build p = .ok ref p') :
    ∃ name, ref = .component name ∧ p'.registry.nameOf? origin = some name := by
  obtain ⟨claim, p₁, hclaim, hrest⟩ := bind_eq_ok h
  obtain ⟨name, rfl, rfl⟩ | ⟨name, rfl, henrolls⟩ := claim_ok_cases hclaim
  · cases hrest
    exact ⟨name, rfl, nameOf?_of_claim_existing hclaim⟩
  · obtain ⟨schema, p₂, hbuild, hlast⟩ := bind_eq_ok hrest
    cases hlast
    exact ⟨name, rfl, hkeeps p₁ schema p₂ hbuild _ _ henrolls.nameOf?⟩

end Resolving

namespace Resolver

open Resolving

variable {catalog : TypeCatalog} {d : TypeDefinition} {t : TypeDescriptor} {name : String}
  {depth : Nat} {p p' q : Pass} {ref : SchemaRef}

theorem complete_subtype (catalog : TypeCatalog) (name : String) (depth : Nat) :
    (complete catalog).subtype name depth =
      (complete catalog).named catalog (.ofName name) depth :=
  congrArg (fun r : Resolver => r.subtype name depth) (complete_step catalog).symm

theorem full_subtype_eq_complete (catalog : TypeCatalog) (name : String) (h : 1 ≤ depth) :
    (full catalog).subtype name depth = (complete catalog).subtype name depth := by
  funext p
  have hagree := agreeWithin_complete catalog exhausted (maxDepth + 1 + catalog.size)
  rw [full, ofLevels_eq_iterate]
  exact (hagree.subtype name depth p (TypeCatalog.room_lt_full h)).same.symm

theorem named_of_lookup? {r : Resolver} (h : catalog.lookup? name = some d) :
    r.named catalog (.ofName name) depth = r.declared catalog d depth := by
  simp [named, TypeDescriptor.ofName, h]

theorem full_subtype_eq_declared (hlookup : catalog.lookup? name = some d) (h : 1 ≤ depth) :
    (full catalog).subtype name depth = (complete catalog).declared catalog d depth := by
  rw [full_subtype_eq_complete catalog name h, complete_subtype, named_of_lookup? hlookup]

theorem full_resolve_eq_declared (hlookup : catalog.lookup? name = some d)
    (hname : (TypeDescriptor.ofName name).isLookedUp = true) (h : 1 ≤ depth)
    (hdepth : depth ≤ maxDepth) :
    (full catalog).resolve (.ofName name) depth =
      (complete catalog).declared catalog d depth := by
  rw [full_resolve_eq_complete catalog _ h, complete_resolve, any_of_isLookedUp hname hdepth,
    named_of_lookup? hlookup]

theorem complete_component_keeps (hd : d ∈ catalog.definitions) (depth : Nat)
    {schema : Schema} (h : (complete catalog).component catalog d depth p = .ok schema p') :
    p.registry.Extends p'.registry := by
  -- The resolver agrees with itself, and whatever agrees keeps names.
  have hagree : ∀ room, AgreeWithin catalog room (complete catalog) (complete catalog) :=
    fun room => (agreeWithin_complete catalog exhausted room).trans
      (agreeWithin_complete catalog exhausted room).symm
  have hroom : catalog.room p.registry (depth + 1) < catalog.room p.registry (depth + 1) + 1 :=
    Nat.lt_succ_self _
  have habove : AgreeAbove p.registry ((complete catalog).component catalog d depth)
      ((complete catalog).component catalog d depth) :=
    related_component (AgreeAbove.congruence catalog _) hd
      (fun _ m _ => (hagree _).resolve_above hroom m.type)
      fun _ _ name _ => (hagree _).subtype_above hroom name
  exact (habove p (.refl _)).keeps schema p' h

/-- Only a declared type ends in a reference or in the constants of an enumeration. -/
theorem declared_ok_cases (hd : d ∈ catalog.definitions)
    (h : (complete catalog).declared catalog d depth p = .ok ref p') :
    (d.isEnum = true ∧ ref = .inline (enumSchema d)) ∨
    (d.isEnum = false ∧ ∃ name, ref = .component name ∧
      p'.registry.nameOf? (.type d.name) = some name) := by
  cases henum : d.isEnum with
  | true =>
    rw [declared, if_pos henum] at h
    cases h
    exact .inl ⟨rfl, rfl⟩
  | false =>
    rw [declared, if_neg (by simp [henum])] at h
    exact .inr ⟨rfl, nameOf?_of_construct
      (fun _ _ _ hbuild => complete_component_keeps hd depth hbuild) h⟩

/-- Once a declared type has been resolved, it comes to the same position wherever the names
are still known, and nothing is done for it again. -/
theorem declared_again {depth' : Nat} (hd : d ∈ catalog.definitions)
    (h : (complete catalog).declared catalog d depth p = .ok ref p')
    (hq : p'.registry.Extends q.registry) :
    (complete catalog).declared catalog d depth' q = .ok ref q := by
  obtain ⟨henum, rfl⟩ | ⟨henum, name, rfl, hname⟩ := declared_ok_cases hd h
  · rw [declared, if_pos henum]
    rfl
  · rw [declared, if_neg (by simp [henum])]
    exact construct_of_known (hq _ _ hname)

def IsOpenInline (ref : SchemaRef) : Prop :=
  ∃ schema, ref = .inline schema ∧ schema.constants = none

theorem isOpenInline_freeForm : IsOpenInline freeForm := ⟨_, rfl, rfl⟩

theorem not_isOpenInline_of_declared (hd : d ∈ catalog.definitions)
    (h : (complete catalog).declared catalog d depth p = .ok ref p') : ¬IsOpenInline ref := by
  intro hopen
  obtain ⟨schema, hschema, hconstants⟩ := hopen
  obtain ⟨-, rfl⟩ | ⟨-, name, rfl, -⟩ := declared_ok_cases hd h
  · cases hschema
    cases hconstants
  · cases hschema

/-- A container without arguments is written in place. -/
theorem composite_of_family {r : Resolver} {family : ContainerFamily}
    (harguments : t.arguments = []) (hany : isAnyObject t = false)
    (hoptional : isOptional t = false) (hfamily : ContainerFamily.of? t = some family) :
    ∃ ref, IsOpenInline ref ∧
      ∀ p, ∃ p', r.composite catalog t depth p = .ok ref p' ∧ p'.registry = p.registry := by
  cases family with
  | map =>
    refine ⟨.inline (.mapOf freeForm), ⟨_, rfl, rfl⟩, fun p => ?_⟩
    simp only [composite, hany, hoptional, hfamily, map, harguments]
    exact ⟨_, rfl, rfl⟩
  | sequence =>
    refine ⟨collectionSchema .sequence freeForm, ⟨_, rfl, rfl⟩, fun p => ?_⟩
    simp only [composite, hany, hoptional, hfamily, collection, harguments]
    exact ⟨_, rfl, rfl⟩
  | set =>
    refine ⟨collectionSchema .set freeForm, ⟨_, rfl, rfl⟩, fun p => ?_⟩
    simp only [composite, hany, hoptional, hfamily, collection, harguments]
    exact ⟨_, rfl, rfl⟩

/-- A type without arguments that is not looked up has the same position in every pass, and
takes no name. -/
theorem any_of_not_isLookedUp {r : Resolver} (harguments : t.arguments = [])
    (h : t.isLookedUp = false) (hdepth : depth ≤ maxDepth) :
    ∃ ref, IsOpenInline ref ∧
      ∀ p, ∃ p', r.any catalog t depth p = .ok ref p' ∧ p'.registry = p.registry := by
  rw [any, if_neg (Nat.not_lt.mpr hdepth)]
  cases hclass : classify t with
  | void => exact ⟨freeForm, isOpenInline_freeForm, fun p => ⟨_, rfl, rfl⟩⟩
  | scalar schema =>
    obtain ⟨type, format, -, rfl⟩ := Registry.scalar?_cases (Registry.scalar?_of_classify hclass)
    exact ⟨_, ⟨_, rfl, rfl⟩, fun p => ⟨p, rfl, rfl⟩⟩
  | composite =>
    cases hany : isAnyObject t with
    | true =>
      refine ⟨freeForm, isOpenInline_freeForm, fun p => ⟨p, ?_, rfl⟩⟩
      simp only [composite, hany]
      rfl
    | false =>
      cases hoptional : isOptional t with
      | true =>
        refine ⟨freeForm, isOpenInline_freeForm, fun p => ?_⟩
        simp only [composite, hany, hoptional, optional, harguments]
        exact ⟨_, rfl, rfl⟩
      | false =>
        cases hfamily : ContainerFamily.of? t with
        | some family => exact composite_of_family harguments hany hoptional hfamily
        | none =>
          have hnamed := TypeDescriptor.isNamed_iff.mpr ⟨hany, hoptional, hfamily⟩
          rw [TypeDescriptor.isLookedUp_iff.mpr ⟨hnamed, hclass⟩] at h
          cases h

theorem full_resolve_of_not_isLookedUp
    (h : (TypeDescriptor.ofName name).isLookedUp = false) (hdepth : 1 ≤ depth)
    (hguard : depth ≤ maxDepth) :
    ∃ ref, IsOpenInline ref ∧ ∀ p, ∃ p',
      (full catalog).resolve (.ofName name) depth p = .ok ref p' ∧ p'.registry = p.registry := by
  rw [full_resolve_eq_complete catalog _ hdepth, complete_resolve]
  exact any_of_not_isLookedUp rfl h hguard

/-- A declared type comes to one position on both ways, by a name that stands for it and as
a direct subtype of a base, exactly if the name is looked up. Then the two ways are the same
computation at every depth before the limit, and after either of them, the other comes to
the same position and does nothing. Otherwise the name is written in place, in every pass
alike and with nothing registered, and never as the alternative is written. -/
theorem position_eq_alternative_iff_isLookedUp (definitions : List TypeDefinition)
    (name : String) (d : TypeDefinition)
    (hlookup : (TypeCatalog.ofList definitions).lookup? name = some d)
    (depth depth' : Nat) (hdepth : 1 ≤ depth) (hguard : depth ≤ maxDepth)
    (hdepth' : 1 ≤ depth') :
    ((full (.ofList definitions)).resolve (.ofName name) depth =
        (full (.ofList definitions)).subtype d.name depth ↔
      (TypeDescriptor.ofName name).isLookedUp = true) ∧
    (∀ p ref p' q, (full (.ofList definitions)).resolve (.ofName name) depth p = .ok ref p' →
      p'.registry.Extends q.registry →
      ((TypeDescriptor.ofName name).isLookedUp = true →
        (full (.ofList definitions)).subtype d.name depth' q = .ok ref q) ∧
      ∀ ref' q', (full (.ofList definitions)).subtype d.name depth' q = .ok ref' q' →
        (ref' = ref ↔ (TypeDescriptor.ofName name).isLookedUp = true)) ∧
    (∀ p ref p' q, (full (.ofList definitions)).subtype d.name depth' p = .ok ref p' →
      p'.registry.Extends q.registry →
      ∃ ref' q', (full (.ofList definitions)).resolve (.ofName name) depth q = .ok ref' q' ∧
        q'.registry = q.registry ∧
        (ref' = ref ↔ (TypeDescriptor.ofName name).isLookedUp = true)) ∧
    ((TypeDescriptor.ofName name).isLookedUp = false → ∃ ref, IsOpenInline ref ∧ ∀ p, ∃ p',
      (full (.ofList definitions)).resolve (.ofName name) depth p = .ok ref p' ∧
        p'.registry = p.registry) := by
  have hd := TypeCatalog.mem_of_lookup? hlookup
  have hown : (TypeCatalog.ofList definitions).lookup? d.name = some d :=
    TypeCatalog.lookup?_name hd
  rw [full_subtype_eq_declared hown hdepth, full_subtype_eq_declared hown hdepth']
  cases hname : (TypeDescriptor.ofName name).isLookedUp with
  | true =>
    rw [full_resolve_eq_declared hlookup hname hdepth hguard]
    refine ⟨by simp, fun p ref p' q hfirst hext => ?_, fun p ref p' q hfirst hext => ?_, by simp⟩
    · have hagain : (complete (.ofList definitions)).declared (.ofList definitions) d depth' q =
          .ok ref q := declared_again hd hfirst hext
      refine ⟨fun _ => hagain, fun ref' q' hsecond => ?_⟩
      rw [hagain] at hsecond
      cases hsecond
      simp
    · exact ⟨ref, q, declared_again hd hfirst hext, rfl, by simp⟩
  | false =>
    obtain ⟨position, hopen, hposition⟩ :=
      @full_resolve_of_not_isLookedUp (.ofList definitions) name depth hname hdepth hguard
    refine ⟨⟨fun heq => ?_, nofun⟩, fun p ref p' q hfirst _ => ⟨nofun, fun ref' q' hsecond => ?_⟩,
      fun p ref p' q hfirst _ => ?_, fun _ => ⟨position, hopen, hposition⟩⟩
    · obtain ⟨p', hrun, -⟩ := hposition (.start .error)
      rw [heq] at hrun
      exact absurd hopen (not_isOpenInline_of_declared hd hrun)
    · obtain ⟨p'', hrun, -⟩ := hposition p
      rw [hrun] at hfirst
      cases hfirst
      refine ⟨fun heq => ?_, nofun⟩
      exact absurd (heq ▸ hopen) (not_isOpenInline_of_declared hd hsecond)
    · obtain ⟨q', hrun, hregistry⟩ := hposition q
      refine ⟨position, q', hrun, hregistry, fun heq => ?_, nofun⟩
      exact absurd (heq ▸ hopen) (not_isOpenInline_of_declared hd hfirst)

end Resolver

-- A declared type with the name of a container.
namespace Destinations

def destination : TypeDefinition where
  name := "org.acme.Destination"
  kind := .interface

def queue : TypeDefinition where
  name := "org.acme.Queue"
  supertypes := [destination.name]

def topic : TypeDefinition where
  name := "org.acme.Topic"
  supertypes := [destination.name]

abbrev catalog : TypeCatalog := .ofList [destination, queue, topic]

theorem lookup?_names : catalog.lookup? queue.name = some queue ∧
    catalog.lookup? topic.name = some topic ∧
    (TypeDescriptor.ofName queue.name).isLookedUp = false ∧
    (TypeDescriptor.ofName topic.name).isLookedUp = true := by
  refine ⟨rfl, rfl, ?_, ?_⟩ <;> decide +kernel

open Resolver in
/-- By its name the topic comes to what it comes to as an alternative; the queue does not. -/
theorem topic_position_eq_alternative :
    (full catalog).resolve (.ofName topic.name) 1 = (full catalog).subtype topic.name 1 ∧
    (full catalog).resolve (.ofName queue.name) 1 ≠ (full catalog).subtype queue.name 1 := by
  obtain ⟨hqueue, htopic, hcontainer, hlookedUp⟩ := lookup?_names
  constructor
  · exact (position_eq_alternative_iff_isLookedUp _ _ topic htopic 1 2 (by decide) (by decide)
      (by decide)).1.mpr hlookedUp
  · intro heq
    have hname := (position_eq_alternative_iff_isLookedUp _ _ queue hqueue 1 2 (by decide)
      (by decide) (by decide)).1.mp heq
    rw [hcontainer] at hname
    cases hname

def visit : Resolving (Option Schema × SchemaRef) := do
  let _ ← resolveRoot catalog (.ofName destination.name)
  let schema := (← get).registry.schemaOf? (.type destination.name)
  let position ← resolveRoot catalog (.ofName queue.name)
  return (schema, position)

def findings? : Option (List (Option String) × Option String) :=
  match visit (.start .error) with
  | .ok (some schema, position) _ =>
      schema.oneOf.map fun alternatives =>
        (alternatives.map SchemaRef.componentName?, position.componentName?)
  | _ => none

open Resolving in
/-- The queue is a component as an alternative of its base, and none by its name. -/
theorem queue_position_ne_alternative : ∃ base p schema alternatives position p',
    resolveRoot catalog (.ofName destination.name) (.start .error) = .ok base p ∧
    p.registry.schemaOf? (.type destination.name) = some schema ∧
    schema.oneOf = some alternatives ∧
    alternatives.map SchemaRef.componentName? = [some "Queue", some "Topic"] ∧
    resolveRoot catalog (.ofName queue.name) p = .ok position p' ∧
    position.componentName? = none := by
  have hfindings : findings? = some ([some "Queue", some "Topic"], none) := by decide +kernel
  unfold findings? at hfindings
  split at hfindings
  next schema position p' hvisit =>
    obtain ⟨alternatives, honeOf, hfound⟩ := Option.map_eq_some_iff.mp hfindings
    injection hfound with halternatives hposition
    obtain ⟨base, p, hbase, hafter⟩ := bind_eq_ok hvisit
    obtain ⟨middle, q, hget, hrest⟩ := bind_eq_ok hafter
    cases hget
    obtain ⟨position', q', hqueue, hreturn⟩ := bind_eq_ok hrest
    injection hreturn with hresult hpass
    injection hresult with hschema hsame
    subst hsame
    exact ⟨base, p, schema, alternatives, position', q', hbase, hschema, honeOf, halternatives,
      hqueue, hposition⟩
  next => cases hfindings

end Destinations

end RestContract
