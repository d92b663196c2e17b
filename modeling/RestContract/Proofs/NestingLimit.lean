import RestContract.Proofs.ContainerShapes
import RestContract.Proofs.RepeatedResolutions

/-!
The depth limit, seen from nested containers. Sequences, sets, the values of maps with text
keys and optionals each lead one level further down, whatever they are wrapped around. A
scalar wrapped so in any number of them comes to the same nesting of schemas, as far as the
limit: the wrappers on the first levels all show, the optionals among them as nothing, and
behind the last level stands a plain object in place of whatever is left.
-/
namespace RestContract

/-- A type written around another one, with what it has beside it. -/
inductive Wrapper where
  /-- Arguments after the first say nothing about the items. -/
  | sequence (name : String) (others : List TypeDescriptor)
      (family : ContainerFamily.of? (.ofName name) = some .sequence)
  | set (name : String) (others : List TypeDescriptor)
      (family : ContainerFamily.of? (.ofName name) = some .set)
  /-- The type inside is that of the values. -/
  | textMap (name : String) (key : TypeDescriptor)
      (family : ContainerFamily.of? (.ofName name) = some .map)
      (text : isText key = true)
  | optional (name : String) (layer : isOptional (.ofName name) = true)

namespace Wrapper

def around : Wrapper → TypeDescriptor → TypeDescriptor
  | sequence name others _, inner => ⟨name, inner :: others⟩
  | set name others _, inner => ⟨name, inner :: others⟩
  | textMap name key _ _, inner => ⟨name, [key, inner]⟩
  | optional name _, inner => ⟨name, [inner]⟩

def shownAround : Wrapper → SchemaRef → SchemaRef
  | sequence .., inner => .inline { type := some .array, items := some inner }
  | set .., inner =>
      .inline { type := some .array, items := some inner, uniqueItems := some true }
  | textMap .., inner => .inline { type := some .object, additionalProperties := some inner }
  | optional .., inner => inner

def wrap (wrappers : List Wrapper) (t : TypeDescriptor) : TypeDescriptor :=
  wrappers.foldr around t

def showWrapped (wrappers : List Wrapper) (ref : SchemaRef) : SchemaRef :=
  wrappers.foldr shownAround ref

end Wrapper

/-- A container is nothing that is recognised before containers are. -/
theorem composite_of_of? {t : TypeDescriptor} {family : ContainerFamily}
    (h : ContainerFamily.of? t = some family) :
    classify t = .composite ∧ ¬isAnyObject t = true ∧ ¬isOptional t = true := by
  refine ⟨?_, fun hany => ?_, fun hoptional => ?_⟩
  · cases hclass : classify t with
    | composite => rfl
    | void =>
      rw [ContainerFamily.of?_of_isVoid (isVoid_of_classify hclass)] at h
      cases h
    | scalar schema =>
      rw [ContainerFamily.of?_of_scalar (Registry.scalar?_of_classify hclass)] at h
      cases h
  · rw [ContainerFamily.of?_of_isAnyObject hany] at h
    cases h
  · rw [ContainerFamily.of?_of_isOptional hoptional] at h
    cases h

namespace Registry

variable {catalog : TypeCatalog} {r : Registry} {t : TypeDescriptor} {family : ContainerFamily}
  {schema : Schema}

/-- A container that is not a map is opened at its first argument, if a level is left. -/
theorem positionWithin?_of_collection (h : ContainerFamily.of? t = some family)
    (hmap : family ≠ .map) (left : Nat) :
    r.positionWithin? catalog (left + 1) t =
      collectionPosition? (r.positionWithin? catalog left) family t := by
  obtain ⟨hclass, hany, hoptional⟩ := composite_of_of? h
  simp only [positionWithin?, hclass, compositePosition?, if_neg hany, if_neg hoptional, h]

theorem positionWithin?_of_map (h : ContainerFamily.of? t = some .map) (left : Nat) :
    r.positionWithin? catalog (left + 1) t =
      r.mapPosition? (r.positionWithin? catalog left) t := by
  obtain ⟨hclass, hany, hoptional⟩ := composite_of_of? h
  simp only [positionWithin?, hclass, compositePosition?, if_neg hany, if_neg hoptional, h]

/-- A wrapper takes one level, and shows around the position of the type inside. -/
theorem positionWithin?_around (w : Wrapper) (t : TypeDescriptor) (left : Nat) :
    r.positionWithin? catalog (left + 1) (w.around t) =
      (r.positionWithin? catalog left t).map w.shownAround := by
  cases w with
  | sequence name others family =>
    have hfamily : ContainerFamily.of? ⟨name, t :: others⟩ = some .sequence := family
    rw [Wrapper.around, positionWithin?_of_collection hfamily (by decide)]
    rfl
  | set name others family =>
    have hfamily : ContainerFamily.of? ⟨name, t :: others⟩ = some .set := family
    rw [Wrapper.around, positionWithin?_of_collection hfamily (by decide)]
    rfl
  | textMap name key family text =>
    have hfamily : ContainerFamily.of? ⟨name, [key, t]⟩ = some .map := family
    rw [Wrapper.around, positionWithin?_of_map hfamily, mapPosition?]
    simp only [if_pos text]
    rfl
  | optional name layer =>
    have hlayer : isOptional ⟨name, [t]⟩ = true := layer
    rw [Wrapper.around, positionWithin?_of_optional hlayer]
    exact Option.map_id'.symm

/-- The wrappers on the levels left all show; the scalar does if a level is left for it. -/
theorem positionWithin?_wrap (wrappers : List Wrapper) (h : classify t = .scalar schema)
    (left : Nat) :
    r.positionWithin? catalog left (Wrapper.wrap wrappers t) =
      some (Wrapper.showWrapped (wrappers.take left)
        (if wrappers.length < left then .inline schema else freeForm)) := by
  -- Wrappers and levels are used up together, one by one.
  induction wrappers generalizing left with
  | nil =>
    cases left with
    | zero => rfl
    | succ left => simp [Wrapper.wrap, Wrapper.showWrapped, positionWithin?, h]
  | cons w wrappers ih =>
    cases left with
    | zero => rfl
    | succ left =>
      rw [Wrapper.wrap, List.foldr_cons, ← Wrapper.wrap, positionWithin?_around, ih]
      simp [Wrapper.showWrapped]

end Registry

/-- A scalar in any number of wrappers, resolved as a root against any catalog and in any
pass, comes to the schemas of the first 32 wrappers in their order. Inside them stands the
schema of the scalar if there are 31 wrappers at most, and a plain object otherwise. An
optional shows no schema and takes a level like the others. Nothing but the log is written. -/
theorem wrapped_scalar_cut_at_limit (catalog : TypeCatalog) (wrappers : List Wrapper)
    (t : TypeDescriptor) (schema : Schema) (h : classify t = .scalar schema) (p : Pass) :
    ∃ p', resolveRoot catalog (Wrapper.wrap wrappers t) p =
        .ok (Wrapper.showWrapped (wrappers.take 32)
          (if wrappers.length ≤ 31 then .inline schema
            else .inline { type := some .object })) p' ∧
      p'.registry = p.registry ∧ p'.lookups = p.lookups ∧ p'.deferred = p.deferred := by
  have hposition : p.registry.position? catalog (Wrapper.wrap wrappers t) 1 =
      some (Wrapper.showWrapped (wrappers.take 32)
        (if wrappers.length ≤ 31 then .inline schema
          else .inline { type := some .object })) := by
    simp only [← Nat.lt_succ_iff]
    exact Registry.positionWithin?_wrap wrappers h 32
  obtain ⟨p', hrun, hwork⟩ := idleAt_resolveRoot hposition
  refine ⟨p', hrun, ?_⟩
  cases hwork
  exact ⟨rfl, rfl, rfl⟩

namespace Crates

def optional : Wrapper := .optional "java.util.Optional" (by decide)

def crate (layers : Nat) : List Wrapper :=
  List.replicate layers optional ++
    [.sequence "java.util.List" [] (by decide +kernel),
      .textMap "Map" (.ofName "String") (by decide +kernel) (by decide),
      .set "java.util.TreeSet" [] (by decide +kernel)]

/-- Behind 28 optionals the numbers in a crate show; two optionals more, and the sets stand on
the level behind the last. -/
theorem crates_cut_at_limit :
    (∃ p', resolveRoot .empty (Wrapper.wrap (crate 28) (.ofName "int")) (.start .error) =
        .ok (.inline (.array (.inline (.mapOf (.inline
          { Schema.array (.inline (Schema.integer.withFormat "int32")) with
            uniqueItems := some true }))))) p' ∧
      p'.registry = .empty .error) ∧
    ∃ p', resolveRoot .empty (Wrapper.wrap (crate 30) (.ofName "int")) (.start .error) =
        .ok (.inline (.array (.inline (.mapOf (.inline (.ofType .object)))))) p' ∧
      p'.registry = .empty .error := by
  have hint : classify (.ofName "int") = .scalar (Schema.integer.withFormat "int32") := rfl
  obtain ⟨p, hrun, hregistry, -⟩ :=
    wrapped_scalar_cut_at_limit .empty (crate 28) _ _ hint (.start .error)
  obtain ⟨p', hrun', hregistry', -⟩ :=
    wrapped_scalar_cut_at_limit .empty (crate 30) _ _ hint (.start .error)
  exact ⟨⟨p, hrun, hregistry⟩, p', hrun', hregistry'⟩

end Crates

end RestContract
