import RestContract.Proofs.ResolutionLevels

/-!
Which types resolve to an object about which nothing is said. Behind its optional layers
such a type is opaque: void, the type of all objects, or an optional without a single
argument. Any other type comes to it only at the depth limit, and the limit is met sooner
the more optional layers there are, since each takes a level.
-/
namespace RestContract

def SchemaRef.isPlaceholder : SchemaRef → Bool
  | .reference _ => false
  | .inline schema =>
      schema.type == some .object && (schema.properties.getD .empty).isEmpty &&
        schema.additionalProperties.isNone

def optionalLayers : TypeDescriptor → Nat
  | ⟨name, [inner]⟩ => if isOptional ⟨name, [inner]⟩ then optionalLayers inner + 1 else 0
  | _ => 0

def isOpaque (t : TypeDescriptor) : Bool :=
  match classify t with
  | .void => true
  | .scalar _ => false
  | .composite => isAnyObject t || (isOptional t && t.optionalParts.isEmpty)

section Layers

variable {t inner : TypeDescriptor} {name : String}

theorem stripOptional_of_layer (h : isOptional ⟨name, [inner]⟩ = true) :
    stripOptional ⟨name, [inner]⟩ = stripOptional inner := by
  rw [stripOptional, if_pos h]

theorem optionalLayers_of_layer (h : isOptional ⟨name, [inner]⟩ = true) :
    optionalLayers ⟨name, [inner]⟩ = optionalLayers inner + 1 := by
  rw [optionalLayers, if_pos h]

/-- A type that is no layer stands for itself. -/
theorem stripOptional_of_bare (h : isOptional t = true → t.optionalParts = []) :
    stripOptional t = t ∧ optionalLayers t = 0 := by
  match t with
  | ⟨name, [inner]⟩ =>
    have hbare : ¬isOptional ⟨name, [inner]⟩ = true := by
      intro hoptional
      cases h hoptional
    rw [stripOptional, optionalLayers, if_neg hbare, if_neg hbare]
    exact ⟨rfl, rfl⟩
  | ⟨name, []⟩ | ⟨name, _ :: _ :: _⟩ => exact ⟨rfl, rfl⟩

theorem classify_of_isOptional (h : isOptional t = true) : classify t = .composite := by
  have hnames : t.name = "Optional" ∨ t.name = "java.util.Optional" := by
    simpa [isOptional] using h
  have hsimple : (scalar? "Optional").isNone = true := by decide +kernel
  have hqualified : (scalar? "java.util.Optional").isNone = true := by decide +kernel
  rcases hnames with hname | hname
  · simp [classify, TypeDescriptor.isVoid, hname, Option.isNone_iff_eq_none.mp hsimple]
  · simp [classify, TypeDescriptor.isVoid, hname, Option.isNone_iff_eq_none.mp hqualified]

theorem not_optional_of_isAnyObject (h : isAnyObject t = true) : isOptional t = false := by
  have hnames : t.name = "java.lang.Object" ∨ t.name = "Object" := by
    simpa [isAnyObject] using h
  rcases hnames with hname | hname
  · simp [isOptional, hname]
  · simp [isOptional, hname]

end Layers

namespace Registry

variable {catalog : TypeCatalog} {r : Registry} {t : TypeDescriptor} {ref : SchemaRef}
  {origin : Origin} {name : String} {inside : TypeDescriptor → Option SchemaRef}

theorem not_placeholder_of_scalar? {schema : Schema} (h : scalar? name = some schema) :
    (SchemaRef.inline schema).isPlaceholder = false := by
  obtain ⟨type, format, htype, rfl⟩ := scalar?_cases h
  simp [SchemaRef.isPlaceholder, htype]

theorem not_placeholder_of_reference? (h : r.reference? origin = some ref) :
    ref.isPlaceholder = false := by
  obtain ⟨name, -, rfl⟩ := reference?_eq_some.mp h
  rfl

theorem not_placeholder_of_namedPosition? (h : r.namedPosition? catalog name = some ref) :
    ref.isPlaceholder = false := by
  unfold namedPosition? at h
  split at h
  · exact not_placeholder_of_reference? h
  · split at h
    · cases h
      rfl
    · exact not_placeholder_of_reference? h

theorem not_placeholder_of_mapPosition? (h : r.mapPosition? inside t = some ref) :
    ref.isPlaceholder = false := by
  unfold mapPosition? at h
  split at h
  · split at h
    · obtain ⟨values, -, rfl⟩ := Option.map_eq_some_iff.mp h
      rfl
    · exact not_placeholder_of_reference? h
  · cases h
    rfl

theorem not_placeholder_of_collectionPosition? {family : ContainerFamily}
    (h : collectionPosition? inside family t = some ref) : ref.isPlaceholder = false := by
  have hschema : ∀ items, (Resolver.collectionSchema family items).isPlaceholder = false := by
    intro items
    cases family <;> rfl
  unfold collectionPosition? at h
  split at h
  · obtain ⟨items, -, rfl⟩ := Option.map_eq_some_iff.mp h
    exact hschema items
  · cases h
    exact hschema freeForm

/-- A placeholder is the position of an opaque type, or the levels left end among the
optional layers. -/
theorem layers_or_opaque_of_placeholder {left : Nat}
    (h : r.positionWithin? catalog left t = some ref) (hplaceholder : ref.isPlaceholder = true) :
    left ≤ optionalLayers t ∨ isOpaque (stripOptional t) = true := by
  induction left generalizing t ref with
  | zero => exact .inl (Nat.zero_le _)
  | succ left ih =>
    unfold positionWithin? at h
    split at h
    next schema hclass =>
      cases h
      rw [not_placeholder_of_scalar? (scalar?_of_classify hclass)] at hplaceholder
      cases hplaceholder
    next hclass =>
      have hbare : isOptional t = true → t.optionalParts = [] := by
        intro hoptional
        rw [classify_of_isOptional hoptional] at hclass
        cases hclass
      rw [(stripOptional_of_bare hbare).1]
      exact .inr (by simp [isOpaque, hclass])
    next hclass =>
      unfold compositePosition? at h
      split at h
      next hany =>
        have hbare : isOptional t = true → t.optionalParts = [] := by
          simp [not_optional_of_isAnyObject hany]
        rw [(stripOptional_of_bare hbare).1]
        exact .inr (by simp [isOpaque, hclass, hany])
      next =>
        split at h
        next hoptional =>
          match t with
          | ⟨name, [inner]⟩ =>
            rw [stripOptional_of_layer hoptional, optionalLayers_of_layer hoptional]
            exact (ih h hplaceholder).imp_left Nat.succ_le_succ
          | ⟨name, []⟩ | ⟨name, _ :: _ :: _⟩ =>
            exact .inr (by simp [isOpaque, stripOptional, hclass, hoptional,
              TypeDescriptor.optionalParts])
        next =>
          split at h
          · rw [not_placeholder_of_mapPosition? h] at hplaceholder
            cases hplaceholder
          · rw [not_placeholder_of_collectionPosition? h] at hplaceholder
            cases hplaceholder
          · rw [not_placeholder_of_namedPosition? h] at hplaceholder
            cases hplaceholder

end Registry

namespace Resolver

open Resolving

variable {catalog : TypeCatalog} {t : TypeDescriptor} {depth : Nat}

theorem complete_resolve (catalog : TypeCatalog) (t : TypeDescriptor) (depth : Nat) :
    (complete catalog).resolve t depth = (complete catalog).any catalog t depth :=
  congrArg (fun r : Resolver => r.resolve t depth) (complete_step catalog).symm

theorem any_of_deep {r : Resolver} (h : maxDepth < depth) (p : Pass) :
    ∃ p', r.any catalog t depth p = .ok freeForm p' := by
  rw [any, if_pos h]
  exact ⟨_, rfl⟩

theorem any_of_isOpaque {r : Resolver} (h : isOpaque t = true) (p : Pass) :
    ∃ p', r.any catalog t depth p = .ok freeForm p' := by
  by_cases hdeep : maxDepth < depth
  · exact any_of_deep hdeep p
  rw [any, if_neg hdeep]
  unfold isOpaque at h
  cases hclass : classify t with
  | scalar schema => simp [hclass] at h
  | void => exact ⟨_, rfl⟩
  | composite =>
    simp only [hclass] at h ⊢
    by_cases hany : isAnyObject t = true
    · rw [composite, if_pos hany]
      exact ⟨_, rfl⟩
    · simp only [hany, Bool.false_or, Bool.and_eq_true] at h
      rw [composite, if_neg hany, if_pos h.1]
      match t with
      | ⟨name, [inner]⟩ => simp [TypeDescriptor.optionalParts] at h
      | ⟨name, []⟩ | ⟨name, _ :: _ :: _⟩ => exact ⟨_, rfl⟩

/-- Where a position is a placeholder, so is the result of a run, and the run succeeds. -/
theorem complete_resolve_freeForm (t : TypeDescriptor) (depth : Nat) (p : Pass)
    (h : maxDepth + 1 - depth ≤ optionalLayers t ∨ isOpaque (stripOptional t) = true) :
    ∃ p', (complete catalog).resolve t depth p = .ok freeForm p' := by
  rw [complete_resolve]
  by_cases hdeep : maxDepth < depth
  · exact any_of_deep hdeep p
  by_cases hlayer : isOptional t = true ∧ t.optionalParts ≠ []
  · match t with
    | ⟨name, [inner]⟩ =>
      rw [stripOptional_of_layer hlayer.1, optionalLayers_of_layer hlayer.1] at h
      rw [any, if_neg hdeep, classify_of_isOptional hlayer.1]
      have hobject : ¬isAnyObject ⟨name, [inner]⟩ = true := by
        intro hany
        rw [not_optional_of_isAnyObject hany] at hlayer
        cases hlayer.1
      simp only [composite, if_neg hobject, if_pos hlayer.1]
      exact complete_resolve_freeForm inner (depth + 1) p (h.imp_left fun hlayers => by omega)
    | ⟨name, []⟩ | ⟨name, _ :: _ :: _⟩ => exact absurd rfl hlayer.2
  · obtain ⟨hstrip, hlayers⟩ := @stripOptional_of_bare t fun hoptional =>
      Classical.byContradiction fun hparts => hlayer ⟨hoptional, hparts⟩
    rw [hstrip, hlayers] at h
    refine any_of_isOpaque (h.resolve_left fun hleft => ?_) p
    omega

end Resolver

end RestContract
