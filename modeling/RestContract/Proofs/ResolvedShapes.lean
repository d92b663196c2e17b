import RestContract.Proofs.Placeholders

/-!
What a type can resolve to, told by what stands under its optional layers. A container
comes to an array, an open object or the component made up for a map; any other type comes
to a component or to a schema in place with nothing inside. So references and arrays stand
only where the name of the type announces them.
-/
namespace RestContract

inductive SchemaRef.HoldsArray : SchemaRef → Prop
  | here {schema : Schema} : schema.type = some .array ∨ schema.items.isSome = true →
      HoldsArray (.inline schema)
  | inside {schema : Schema} {part : SchemaRef} :
      part ∈ schema.parts → HoldsArray part → HoldsArray (.inline schema)

structure SchemaRef.Flat (ref : SchemaRef) : Prop where
  mentions : ∀ path, ¬ref.Mentions path
  arrays : ¬ref.HoldsArray

theorem SchemaRef.flat_inline {schema : Schema} (hparts : schema.parts = [])
    (htype : schema.type ≠ some .array) : (SchemaRef.inline schema).Flat := by
  have hinside : ∀ part : SchemaRef, part ∉ schema.parts := by simp [hparts]
  constructor
  · intro path hmentions
    cases hmentions with
    | inside hpart _ => exact hinside _ hpart
  · intro harray
    cases harray with
    | inside hpart _ => exact hinside _ hpart
    | here hschema =>
      rcases hschema with heq | hitems
      · exact htype heq
      · obtain ⟨items, hsome⟩ := Option.isSome_iff_exists.mp hitems
        exact hinside items (by simp [Schema.parts, hsome])

theorem flat_freeForm : freeForm.Flat := SchemaRef.flat_inline rfl (by decide)

theorem component_of_construct {preferred : String} {origin : Origin} {build : Resolving Schema}
    {ref : SchemaRef} {p p' : Pass}
    (h : Resolving.construct preferred origin build p = .ok ref p') :
    ∃ name, ref = .component name := by
  obtain ⟨claim, q, -, hrest⟩ := Resolving.bind_eq_ok h
  cases claim with
  | existing name =>
    cases hrest
    exact ⟨name, rfl⟩
  | new name =>
    obtain ⟨schema, q', -, hlast⟩ := Resolving.bind_eq_ok hrest
    cases hlast
    exact ⟨name, rfl⟩

namespace Resolver

open Resolving

inductive Shape (t : TypeDescriptor) : SchemaRef → Prop
  | plain : Shape t freeForm
  | scalar {schema : Schema} : scalar? t.name = some schema → Shape t (.inline schema)
  | enumeration (d : TypeDefinition) : ContainerFamily.of? t = none →
      Shape t (.inline (enumSchema d))
  | named (name : String) : ContainerFamily.of? t = none → Shape t (.component name)
  | collection {family : ContainerFamily} (items : SchemaRef) :
      ContainerFamily.of? t = some family → family ≠ .map →
      Shape t (collectionSchema family items)
  | openMap (values : SchemaRef) : ContainerFamily.of? t = some .map →
      Shape t (.inline (.mapOf values))
  | keyedMap (name : String) : ContainerFamily.of? t = some .map → Shape t (.component name)

variable {catalog : TypeCatalog} {r : Resolver} {t : TypeDescriptor} {depth : Nat}
  {ref : SchemaRef} {p p' : Pass}

theorem shape_of_collection {family : ContainerFamily}
    (hfamily : ContainerFamily.of? t = some family) (hmap : family ≠ .map)
    (h : r.collection t family depth p = .ok ref p') : Shape t ref := by
  unfold collection at h
  cases harguments : t.arguments with
  | cons element rest =>
    simp only [harguments] at h
    obtain ⟨items, q, -, hreturn⟩ := bind_eq_ok h
    cases hreturn
    exact .collection items hfamily hmap
  | nil =>
    simp only [harguments] at h
    cases h
    exact .collection freeForm hfamily hmap

theorem shape_of_map (hfamily : ContainerFamily.of? t = some .map)
    (h : r.map t depth p = .ok ref p') : Shape t ref := by
  unfold map at h
  rcases harguments : t.arguments with _ | ⟨key, _ | ⟨value, _ | ⟨third, rest⟩⟩⟩
  case cons.cons.nil =>
    simp only [harguments] at h
    split at h
    · obtain ⟨values, q, -, hreturn⟩ := bind_eq_ok h
      cases hreturn
      exact .openMap values hfamily
    · obtain ⟨name, rfl⟩ := component_of_construct h
      exact .keyedMap name hfamily
  all_goals
    simp only [harguments] at h
    cases h
    exact .openMap freeForm hfamily

theorem shape_of_named (hfamily : ContainerFamily.of? t = none)
    (h : r.named catalog t depth p = .ok ref p') : Shape t ref := by
  have hdeclared : ∀ d q, r.declared catalog d depth q = .ok ref p' → Shape t ref := by
    intro d q hrun
    unfold declared at hrun
    split at hrun
    · cases hrun
      exact .enumeration d hfamily
    · obtain ⟨name, rfl⟩ := component_of_construct hrun
      exact .named name hfamily
  unfold named at h
  cases hlookup : catalog.lookup? t.name with
  | none =>
    simp only [hlookup] at h
    obtain ⟨name, rfl⟩ := component_of_construct h
    exact .named name hfamily
  | some d =>
    simp only [hlookup] at h
    split at h
    · exact hdeclared d _ h
    · exact hdeclared d p h

/-- Optional layers are looked through, so the shape is that of what they enclose. -/
theorem shape_of_resolve {levels : Nat}
    (h : (ofLevels catalog levels).resolve t depth p = .ok ref p') :
    Shape (stripOptional t) ref := by
  induction levels generalizing t depth p with
  | zero =>
    cases h
    exact .plain
  | succ levels ih =>
    change (ofLevels catalog levels).any catalog t depth p = .ok ref p' at h
    unfold any at h
    split at h
    · cases h
      exact .plain
    cases hclass : classify t with
    | void =>
      rw [hclass] at h
      cases h
      exact .plain
    | scalar schema =>
      have hbare : isOptional t = true → t.optionalParts = [] := by
        intro hoptional
        rw [classify_of_isOptional hoptional] at hclass
        cases hclass
      rw [hclass] at h
      cases h
      rw [(stripOptional_of_bare hbare).1]
      exact .scalar (Registry.scalar?_of_classify hclass)
    | composite =>
      simp only [hclass, composite] at h
      split at h
      · cases h
        exact .plain
      split at h
      next hoptional =>
        obtain ⟨name, arguments⟩ := t
        rcases arguments with _ | ⟨inner, _ | ⟨second, rest⟩⟩
        case cons.nil =>
          rw [stripOptional_of_layer hoptional]
          exact ih h
        all_goals
          cases h
          exact .plain
      next hoptional =>
        rw [(stripOptional_of_bare fun htrue => absurd htrue hoptional).1]
        cases hfamily : ContainerFamily.of? t with
        | none =>
          simp only [hfamily] at h
          exact shape_of_named hfamily h
        | some family =>
          simp only [hfamily] at h
          cases family with
          | map => exact shape_of_map hfamily h
          | sequence | set => exact shape_of_collection hfamily (by decide) h

theorem Shape.isReference_or_flat (h : Shape t ref) (hfamily : ContainerFamily.of? t = none) :
    ref.isReference = true ∨ ref.Flat := by
  cases h with
  | plain => exact .inr flat_freeForm
  | scalar hscalar =>
    obtain ⟨type, format, ⟨-, harray⟩, rfl⟩ := Registry.scalar?_cases hscalar
    exact .inr (SchemaRef.flat_inline rfl fun heq => harray (Option.some.inj heq))
  | enumeration d => exact .inr (SchemaRef.flat_inline rfl nofun)
  | named => exact .inl rfl
  | collection items hsome | openMap values hsome | keyedMap name hsome =>
    rw [hfamily] at hsome
    cases hsome

end Resolver

end RestContract
