import RestContract.Proofs.Placeholders
import RestContract.Proofs.Sessions

/-!
Containers show in their schemas. A container is recognised by the simple name of the type
under its optional layers, before anything is resolved; resolution recognises it again, one
level further down for each layer. Before the depth limit is met the two agree: sequences and
sets come to arrays, sets to arrays of unique items, maps to open objects or to the component
made up for them, and nothing else comes to any of these. So the shape that an endpoint gives
for its response is the shape that the response has.
-/
namespace RestContract

theorem Naming.simpleName_of_unqualified {name : String} (h : packageName name = none) :
    simpleName name = name := by
  have hdrop : name.toList.reverse.dropWhile (· != '.') = [] := by
    unfold packageName packageChars at h
    split at h
    next hnil => exact hnil
    next => cases h
  have htake := List.takeWhile_append_dropWhile (p := (· != '.')) (l := name.toList.reverse)
  rw [hdrop, List.append_nil] at htake
  rw [simpleName, simpleChars, htake, List.reverse_reverse, String.ofList_toList]

theorem isVoid_of_classify {t : TypeDescriptor} (h : classify t = .void) : t.isVoid = true := by
  unfold classify at h
  split at h
  next hvoid => exact hvoid
  next =>
    split at h
    · cases h
    · cases h

namespace ContainerFamily

variable {t : TypeDescriptor}

theorem of?_of_isVoid (h : t.isVoid = true) : of? t = none := by
  have hname : t.name ∈ ["void", "java.lang.Void", "Void"] := by
    simpa [TypeDescriptor.isVoid, or_assoc] using h
  have hnames : ∀ name ∈ ["void", "java.lang.Void", "Void"],
      ofSimpleName? (Naming.simpleName name) = none := by decide +kernel
  exact hnames t.name hname

theorem of?_of_isAnyObject (h : isAnyObject t = true) : of? t = none := by
  have hname : t.name ∈ ["java.lang.Object", "Object"] := by
    simpa [isAnyObject] using h
  have hnames : ∀ name ∈ ["java.lang.Object", "Object"],
      ofSimpleName? (Naming.simpleName name) = none := by decide +kernel
  exact hnames t.name hname

theorem of?_of_isOptional (h : isOptional t = true) : of? t = none := by
  have hname : t.name ∈ ["Optional", "java.util.Optional"] := by
    simpa [isOptional] using h
  have hnames : ∀ name ∈ ["Optional", "java.util.Optional"],
      ofSimpleName? (Naming.simpleName name) = none := by decide +kernel
  exact hnames t.name hname

theorem of?_of_scalar {schema : Schema} (h : scalar? t.name = some schema) : of? t = none := by
  have hprimitive : ∀ entry ∈ primitives,
      ofSimpleName? (Naming.simpleName entry.1) = none := by decide +kernel
  have hwellKnown : ∀ entry ∈ wellKnownScalars, ofSimpleName? entry.1 = none := by decide +kernel
  rcases Registry.mem_tables_of_scalar? h with hentry | ⟨simple, hsimple, hentry⟩
  · exact hprimitive (t.name, schema) hentry
  · have heq : t.simpleName = simple := by
      unfold wellKnownSimpleName? at hsimple
      split at hsimple
      next hpackage =>
        cases hsimple
        exact Naming.simpleName_of_unqualified hpackage
      next =>
        split at hsimple
        · exact Option.some.inj hsimple
        · cases hsimple
    rw [of?, heq]
    exact hwellKnown (simple, schema) hentry

end ContainerFamily

/-- The optional layers are all looked through. -/
theorem optionalParts_stripOptional (t : TypeDescriptor) :
    isOptional (stripOptional t) = true → (stripOptional t).optionalParts = [] := by
  fun_induction stripOptional t with
  | case1 name inner hoptional ih => exact ih
  | case2 name inner hbare => exact fun hoptional => absurd hoptional hbare
  | case3 t hshape =>
    intro _
    obtain ⟨name, _ | ⟨inner, _ | ⟨second, rest⟩⟩⟩ := t
    · rfl
    · exact absurd rfl (hshape name inner)
    · rfl

namespace SchemaRef

def isArray : SchemaRef → Bool
  | .reference _ => false
  | .inline schema => schema.type == some .array

def hasUniqueItems : SchemaRef → Bool
  | .reference _ => false
  | .inline schema => schema.uniqueItems == some true

def isOpenObject : SchemaRef → Bool
  | .reference _ => false
  | .inline schema => schema.type == some .object && schema.additionalProperties.isSome

variable {name : String}

@[simp] theorem isArray_component : (component name).isArray = false := rfl

@[simp] theorem hasUniqueItems_component : (component name).hasUniqueItems = false := rfl

@[simp] theorem isOpenObject_component : (component name).isOpenObject = false := rfl

end SchemaRef

def mapOrigin (t : TypeDescriptor) : Origin := .synthetic s!"map {t.qualified}"

namespace Registry

open ContainerFamily

variable {catalog : TypeCatalog} {r : Registry} {t : TypeDescriptor} {ref : SchemaRef}
  {family : ContainerFamily} {inside : TypeDescriptor → Option SchemaRef} {left : Nat}

/-- The position shows which container the type is, and that it is none otherwise. -/
structure ShowsContainer (r : Registry) (t : TypeDescriptor) (ref : SchemaRef) : Prop where
  array : ref.isArray = true ↔ of? t = some .sequence ∨ of? t = some .set
  unique : ref.hasUniqueItems = true ↔ of? t = some .set
  map : of? t = some .map ↔ ref.isOpenObject = true ∨ r.reference? (mapOrigin t) = some ref

theorem reference?_ne_inline {origin : Origin} {schema : Schema} :
    r.reference? origin ≠ some (.inline schema) := by
  intro h
  obtain ⟨name, -, hname⟩ := reference?_eq_some.mp h
  cases hname

/-- A schema in place that is neither an array nor open, for a type that is no container. -/
theorem showsContainer_of_plain {schema : Schema} (hfamily : of? t = none)
    (htype : schema.type ≠ some .array) (hunique : schema.uniqueItems = none)
    (hopen : schema.additionalProperties = none) : r.ShowsContainer t (.inline schema) where
  array := by simp [hfamily, SchemaRef.isArray, htype]
  unique := by simp [hfamily, SchemaRef.hasUniqueItems, hunique]
  map := by simp [hfamily, SchemaRef.isOpenObject, hopen, reference?_ne_inline]

theorem showsContainer_freeForm (hfamily : of? t = none) : r.ShowsContainer t freeForm :=
  showsContainer_of_plain hfamily (by decide) rfl rfl

theorem showsContainer_collection (hfamily : of? t = some family) (hmap : family ≠ .map)
    (items : SchemaRef) : r.ShowsContainer t (Resolver.collectionSchema family items) := by
  cases family with
  | map => exact absurd rfl hmap
  | sequence | set =>
    constructor
    · simp [hfamily, Resolver.collectionSchema, SchemaRef.isArray, Schema.array]
    · simp [hfamily, Resolver.collectionSchema, SchemaRef.hasUniqueItems, Schema.array]
    · simp [hfamily, Resolver.collectionSchema, SchemaRef.isOpenObject, Schema.array,
        reference?_ne_inline]

theorem showsContainer_mapOf (hfamily : of? t = some .map) (values : SchemaRef) :
    r.ShowsContainer t (.inline (.mapOf values)) where
  array := by simp [hfamily, SchemaRef.isArray, Schema.mapOf]
  unique := by simp [hfamily, SchemaRef.hasUniqueItems, Schema.mapOf]
  map := by simp [hfamily, SchemaRef.isOpenObject, Schema.mapOf]

theorem showsContainer_of_mapOrigin (hfamily : of? t = some .map)
    (h : r.reference? (mapOrigin t) = some ref) : r.ShowsContainer t ref := by
  obtain ⟨name, -, rfl⟩ := reference?_eq_some.mp h
  exact ⟨by simp [hfamily], by simp [hfamily], by simp [hfamily, h]⟩

/-- The component of a named type is not the one of a map: names have one owner. -/
theorem showsContainer_of_type (hfamily : of? t = none) {name : String}
    (h : r.reference? (.type name) = some ref) : r.ShowsContainer t ref := by
  obtain ⟨own, hown, rfl⟩ := reference?_eq_some.mp h
  have hother : r.reference? (mapOrigin t) ≠ some (.component own) := by
    intro hmap
    obtain ⟨own', hown', heq⟩ := reference?_eq_some.mp hmap
    rw [← SchemaRef.component_inj heq] at hown'
    cases nameOf?_inj hown hown'
  exact ⟨by simp [hfamily], by simp [hfamily], by simp [hfamily, hother]⟩

theorem showsContainer_of_namedPosition? (hfamily : of? t = none)
    (h : r.namedPosition? catalog t.name = some ref) : r.ShowsContainer t ref := by
  unfold namedPosition? at h
  split at h
  · exact showsContainer_of_type hfamily h
  · split at h
    · cases h
      refine showsContainer_of_plain hfamily ?_ rfl rfl
      intro htype
      cases htype
    · exact showsContainer_of_type hfamily h

theorem showsContainer_of_collectionPosition? (hfamily : of? t = some family)
    (hmap : family ≠ .map) (h : collectionPosition? inside family t = some ref) :
    r.ShowsContainer t ref := by
  unfold collectionPosition? at h
  split at h
  · obtain ⟨items, -, rfl⟩ := Option.map_eq_some_iff.mp h
    exact showsContainer_collection hfamily hmap items
  · cases h
    exact showsContainer_collection hfamily hmap freeForm

theorem showsContainer_of_mapPosition? (hfamily : of? t = some .map)
    (h : r.mapPosition? inside t = some ref) : r.ShowsContainer t ref := by
  unfold mapPosition? at h
  split at h
  · split at h
    · obtain ⟨values, -, rfl⟩ := Option.map_eq_some_iff.mp h
      exact showsContainer_mapOf hfamily values
    · exact showsContainer_of_mapOrigin hfamily h
  · cases h
    exact showsContainer_mapOf hfamily freeForm

theorem optionalPosition?_of_bare (h : t.optionalParts = []) :
    optionalPosition? inside t = some freeForm := by
  obtain ⟨name, _ | ⟨inner, _ | ⟨second, rest⟩⟩⟩ := t
  · rfl
  · cases h
  · rfl

/-- A type without optional layers, with a level left. -/
theorem showsContainer_of_bare (hbare : isOptional t = true → t.optionalParts = [])
    (h : r.positionWithin? catalog (left + 1) t = some ref) : r.ShowsContainer t ref := by
  rw [positionWithin?] at h
  cases hclass : classify t with
  | scalar schema =>
    simp only [hclass] at h
    cases h
    have hscalar := scalar?_of_classify hclass
    obtain ⟨type, format, ⟨-, harray⟩, rfl⟩ := scalar?_cases hscalar
    refine showsContainer_of_plain (of?_of_scalar hscalar) ?_ rfl rfl
    intro htype
    exact harray (Option.some.inj htype)
  | void =>
    simp only [hclass] at h
    cases h
    exact showsContainer_freeForm (of?_of_isVoid (isVoid_of_classify hclass))
  | composite =>
    simp only [hclass, compositePosition?] at h
    by_cases hany : isAnyObject t = true
    · rw [if_pos hany] at h
      cases h
      exact showsContainer_freeForm (of?_of_isAnyObject hany)
    rw [if_neg hany] at h
    by_cases hoptional : isOptional t = true
    · rw [if_pos hoptional, optionalPosition?_of_bare (hbare hoptional)] at h
      cases h
      exact showsContainer_freeForm (of?_of_isOptional hoptional)
    rw [if_neg hoptional] at h
    cases hfamily : of? t with
    | none =>
      simp only [hfamily] at h
      exact showsContainer_of_namedPosition? hfamily h
    | some family =>
      cases family with
      | map =>
        simp only [hfamily] at h
        exact showsContainer_of_mapPosition? hfamily h
      | sequence | set =>
        simp only [hfamily] at h
        exact showsContainer_of_collectionPosition? hfamily (by decide) h

theorem positionWithin?_of_optional (h : isOptional t = true) (left : Nat) :
    r.positionWithin? catalog (left + 1) t =
      optionalPosition? (r.positionWithin? catalog left) t := by
  have hany : ¬isAnyObject t = true := by
    intro hany
    rw [not_optional_of_isAnyObject hany] at h
    cases h
  simp only [positionWithin?, classify_of_isOptional h, compositePosition?, if_neg hany, if_pos h]

/-- Each optional layer takes a level. -/
theorem positionWithin?_layers (t : TypeDescriptor) (left : Nat) :
    r.positionWithin? catalog (left + optionalLayers t) t =
      r.positionWithin? catalog left (stripOptional t) := by
  fun_induction stripOptional t with
  | case1 name inner hoptional ih =>
    rw [optionalLayers_of_layer hoptional, ← Nat.add_assoc, positionWithin?_of_optional hoptional]
    exact ih
  | case2 name inner hbare => rw [optionalLayers, if_neg hbare, Nat.add_zero]
  | case3 t hshape =>
    obtain ⟨name, _ | ⟨inner, _ | ⟨second, rest⟩⟩⟩ := t
    · rfl
    · exact absurd rfl (hshape name inner)
    · rfl

theorem showsContainer_of_position? (hlayers : optionalLayers t < maxDepth)
    (h : r.position? catalog t 1 = some ref) : r.ShowsContainer (stripOptional t) ref := by
  obtain ⟨left, hleft⟩ : ∃ left, maxDepth + 1 - 1 = left + 1 + optionalLayers t :=
    ⟨maxDepth - optionalLayers t - 1, by omega⟩
  rw [position?, hleft, positionWithin?_layers] at h
  exact showsContainer_of_bare (optionalParts_stripOptional t) h

end Registry

inductive ResponseShape.Describes (r : Registry) (t : TypeDescriptor) :
    ResponseShape → Option SchemaRef → Prop
  | none : Describes r t .none .none
  | single {ref : SchemaRef} : ref.isArray = false → ref.isOpenObject = false →
      r.reference? (mapOrigin t) ≠ some ref → Describes r t .single (some ref)
  | sequence {ref : SchemaRef} : ref.isArray = true → ref.hasUniqueItems = false →
      Describes r t .sequence (some ref)
  | set {ref : SchemaRef} : ref.isArray = true → ref.hasUniqueItems = true →
      Describes r t .set (some ref)
  | map {ref : SchemaRef} :
      ref.isOpenObject = true ∨ r.reference? (mapOrigin t) = some ref →
      Describes r t .map (some ref)

namespace Endpoint

open Resolving

variable {catalog : TypeCatalog} {interface : Interface} {operation : Operation} {strict : Bool}
  {route : EndpointRoute} {e : Endpoint} {r : Registry} {p p' : Pass} {ref : SchemaRef}

def shapeOfFamily : Option ContainerFamily → ResponseShape
  | some .sequence => .sequence
  | some .set => .set
  | some .map => .map
  | none => .single

theorem shapeOf_eq (returns : TypeDescriptor) :
    shapeOf returns = shapeOfFamily (ContainerFamily.of? (stripOptional returns)) := by
  unfold shapeOf
  generalize ContainerFamily.of? (stripOptional returns) = family
  rcases family with _ | (_ | _ | _) <;> rfl

/-- A schema that shows the container is described by the shape that announces it. -/
theorem describes_of_shows {t : TypeDescriptor} (h : r.ShowsContainer t ref) :
    ResponseShape.Describes r t (shapeOfFamily (ContainerFamily.of? t)) (some ref) := by
  have harray := h.array
  have hunique := h.unique
  have hmap := h.map
  generalize ContainerFamily.of? t = family at harray hunique hmap ⊢
  rcases family with _ | (_ | _ | _)
  · have hnot : ¬(ref.isOpenObject = true ∨ r.reference? (mapOrigin t) = some ref) := by
      simpa using hmap
    rw [not_or] at hnot
    exact .single (by simpa using harray) (by simpa using hnot.1) hnot.2
  · exact .sequence (harray.mpr (.inl rfl)) (by simpa using hunique)
  · exact .set (harray.mpr (.inr rfl)) (hunique.mpr rfl)
  · exact .map (hmap.mp rfl)

/-- The endpoint has no response and announces none, or it has one and announces the shape of
the type that is returned. -/
def Announces (e : Endpoint) (returns : TypeDescriptor) : Prop :=
  e.response = none ∧ e.responseShape = .none ∨
  ∃ ref, e.response = some ref ∧ e.responseShape = shapeOf returns

theorem announces_of_assemble
    (h : assemble catalog interface operation strict route p = .ok e p') :
    e.Announces operation.returns := by
  obtain ⟨⟨response, shape⟩, q, hresponse, hrest⟩ := bind_eq_ok h
  obtain ⟨placed, q', -, hlast⟩ := bind_eq_ok hrest
  obtain ⟨requestBody, q'', -, hreturn⟩ := bind_eq_ok hlast
  cases hreturn
  unfold resolveResponse at hresponse
  split at hresponse
  · cases hresponse
    exact .inl ⟨rfl, rfl⟩
  · dsimp only at hresponse
    unfold Announces
    generalize shapeOf operation.returns = announced at hresponse ⊢
    split at hresponse
    · obtain ⟨-, q₁, -, hresolve⟩ := bind_eq_ok hresponse
      obtain ⟨schema, q₂, -, hpair⟩ := bind_eq_ok hresolve
      cases hpair
      exact .inr ⟨schema, rfl, rfl⟩
    · obtain ⟨schema, q₂, -, hpair⟩ := bind_eq_ok hresponse
      cases hpair
      exact .inr ⟨schema, rfl, rfl⟩

theorem announces_of_ofOperation
    (h : ofOperation catalog interface operation strict p = .ok e p') :
    e.Announces operation.returns := by
  obtain ⟨route, q, -, hassemble⟩ := bind_eq_ok h
  exact announces_of_assemble hassemble

/-- The response stands at the position of the return type, so its shape describes it. -/
theorem describes_of_positioned (h : e.Positioned catalog operation r)
    (hannounces : e.Announces operation.returns)
    (hlayers : optionalLayers operation.returns < maxDepth) :
    ResponseShape.Describes r (stripOptional operation.returns) e.responseShape e.response := by
  rcases hannounces with ⟨hnone, hshape⟩ | ⟨ref, href, hshape⟩
  · rw [hnone, hshape]
    exact .none
  · have hshows := Registry.showsContainer_of_position? hlayers (h.response ref href)
    rw [hshape, shapeOf_eq, href]
    exact describes_of_shows hshows

end Endpoint

open Pass in
/-- Whatever was asked of a pass before, a type with fewer optional layers than the depth
limit comes to an array exactly if it is a sequence or a set under its layers, to one of
unique items exactly if it is a set, and to an open object or to the component made up for
it exactly if it is a map. So the shape of an endpoint describes its response, whether the
route of the endpoint is given or decided. -/
theorem containers_show_in_schemas (catalog : TypeCatalog) (policy : CollisionPolicy)
    (requests : List Request) :
    (∀ t ref p, optionalLayers t < maxDepth →
      resolveRoot catalog t ((start policy).afterAll catalog requests) = .ok ref p →
      p.registry.ShowsContainer (stripOptional t) ref) ∧
    (∀ interface operation strict e p, optionalLayers operation.returns < maxDepth →
      (Endpoint.ofOperation catalog interface operation strict
          ((start policy).afterAll catalog requests) = .ok e p ∨
        ∃ route, Endpoint.assemble catalog interface operation strict route
          ((start policy).afterAll catalog requests) = .ok e p) →
      ResponseShape.Describes p.registry (stripOptional operation.returns)
        e.responseShape e.response) := by
  have hreached := faithful_reached catalog policy requests
  constructor
  · intro t ref p hlayers h
    obtain ⟨hgrows, hposition⟩ := (grows_resolveRoot hreached t).of_ok h
    exact Registry.showsContainer_of_position? hlayers hposition
  · intro interface operation strict e p hlayers h
    rcases h with hdecided | ⟨route, hgiven⟩
    · obtain ⟨hgrows, hpositioned⟩ := (Endpoint.grows_ofOperation hreached).of_ok hdecided
      exact Endpoint.describes_of_positioned hpositioned
        (Endpoint.announces_of_ofOperation hdecided) hlayers
    · obtain ⟨hgrows, -, hpositioned, -⟩ :=
        (Endpoint.grows_assemble (wrapping_made catalog interface) hreached).of_ok hgiven
      exact Endpoint.describes_of_positioned hpositioned
        (Endpoint.announces_of_assemble hgiven) hlayers

namespace Stock

def tags : TypeDescriptor := ⟨"Optional", [⟨"java.util.HashSet", [.ofName "int"]⟩]⟩

def service : Interface where
  name := "org.acme.IStock"

def counts : Operation where
  name := "counts"
  returns := ⟨"Optional", [⟨"java.util.TreeMap", [.ofName "int", .ofName "org.acme.Item"]⟩]⟩

def resolved? : Option ((SchemaRef × Pass) × Endpoint × Pass) :=
  match resolveRoot .empty tags (.start .error) with
  | .error _ _ => none
  | .ok ref p =>
      match Endpoint.ofOperation .empty service counts true
          ((Pass.start .error).afterAll .empty [.resolve tags]) with
      | .error _ _ => none
      | .ok e p' => some ((ref, p), e, p')

/-- An optional set comes to an array of unique items, and the optional map with keys that
are no texts comes to the component made up for it. -/
theorem stock_containers_shown : ∃ ref p e p' name,
    resolveRoot .empty tags (.start .error) = .ok ref p ∧
    ref.isArray = true ∧ ref.hasUniqueItems = true ∧
    Endpoint.ofOperation .empty service counts true
      ((Pass.start .error).afterAll .empty [.resolve tags]) = .ok e p' ∧
    e.responseShape = .map ∧ e.response = some (.component name) ∧
    p'.registry.reference? (mapOrigin (stripOptional counts.returns)) = some (.component name) := by
  have hfound : resolved?.map (fun found => (found.2.1.responseShape,
      found.2.1.response.map SchemaRef.isReference)) = some (.map, some true) := by decide +kernel
  have hset : ContainerFamily.of? (stripOptional tags) = some .set := by decide +kernel
  obtain ⟨⟨⟨ref, p⟩, e, p'⟩, hresolved, heq⟩ := Option.map_eq_some_iff.mp hfound
  injection heq with hshape hreference
  unfold resolved? at hresolved
  split at hresolved
  · cases hresolved
  next hroot =>
    split at hresolved
    · cases hresolved
    next hassembled =>
      cases hresolved
      have hshows := (containers_show_in_schemas .empty .error []).1 tags ref p
        (by decide) hroot
      have hdescribes := (containers_show_in_schemas .empty .error [.resolve tags]).2 service
        counts true e p' (by decide) (.inl hassembled)
      rw [hshape] at hdescribes
      generalize hresponse : e.response = response at hdescribes hreference
      cases hdescribes with
      | @map shown hmap =>
        rcases hmap with hopen | howner
        · cases shown with
          | reference path => cases hopen
          | inline schema => cases hreference
        · obtain ⟨name, -, rfl⟩ := Registry.reference?_eq_some.mp howner
          exact ⟨ref, p, e, p', name, hroot, hshows.array.mpr (.inr hset), hshows.unique.mpr hset,
            hassembled, hshape, hresponse, howner⟩

end Stock

end RestContract
