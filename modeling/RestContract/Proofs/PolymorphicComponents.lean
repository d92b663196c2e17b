import RestContract.Proofs.LeafComponents

/-!
The components of types with subtypes. Such a component lists one alternative for each
direct subtype and carries nothing else but its description and discriminator. The
alternatives of the document follow the subtype relation of the catalog, so whatever
object they lead to is the component of a leaf below the base, and was handed the
discriminator property of the base.
-/
namespace RestContract

open Attachment

def Document.HasAlternative (d : Document) (name other : String) : Prop :=
  ∃ schema, d.schema? name = some schema ∧ SchemaRef.component other ∈ schema.oneOf.getD []

namespace Compilation

variable {catalog : TypeCatalog} {options : CompilerOptions} {interface : Interface}
  {document : Document} {pass p : Pass} {served : List (Operation × Endpoint)}
  {log : List Construction} {b d t : TypeDefinition} {name other : String}

/-- The alternative that stands for a direct subtype: an enumeration is written in place,
any other type is referred to. -/
def IsAlternative (pass : Pass) (t : TypeDefinition) (ref : SchemaRef) : Prop :=
  if t.isEnum then ref = .inline { Schema.string with constants := some t.constants }
  else ∃ name, pass.registry.nameOf? (.type t.name) = some name ∧ ref = .component name

theorem isAlternative_of_namedPosition? {ref : SchemaRef}
    (ht : t ∈ catalog.definitions)
    (h : pass.registry.namedPosition? catalog t.name = some ref) : IsAlternative pass t ref := by
  rw [Registry.namedPosition?, TypeCatalog.lookup?_name ht] at h
  unfold IsAlternative
  split
  next henum =>
    simp only [henum, if_true] at h
    exact (Option.some.inj h).symm
  next henum =>
    simp only [henum] at h
    exact Registry.reference?_eq_some.mp h

namespace Run

variable (run : Run catalog options interface document pass served log p)

include run

/-- Enumerations have no component. -/
theorem not_enum (hd : d ∈ catalog.definitions)
    (hname : pass.registry.nameOf? (.type d.name) = some name) : d.isEnum = false := by
  obtain ⟨c, hc, horigin, -⟩ := run.component hname
  exact (((run.made hc).2.lawful_of_type horigin).of_declared hd horigin).1

theorem polymorphic_component (hb : b ∈ catalog.definitions)
    (hsub : catalog.subtypesOf b.name ≠ [])
    (hname : pass.registry.nameOf? (.type b.name) = some name) :
    ∃ alternatives, document.schema? name = some (Resolver.polymorphicSchema b alternatives) ∧
      List.Forall₂ (IsAlternative pass)
        (catalog.definitions.filter (·.supertypes.contains b.name)) alternatives := by
  obtain ⟨c, hc, horigin, attachments, -, hget⟩ := run.component hname
  obtain ⟨-, ⟨hleaf, -⟩ | ⟨-, alternatives, halternatives, hschema, -⟩⟩ :=
    ((run.made hc).2.lawful_of_type horigin).of_declared hb horigin
  · exact absurd hleaf hsub
  · refine ⟨alternatives, ?_, ?_⟩
    · rw [run.schema?_of_get? hget, hschema, applyAll_of_not_plain rfl]
    · have hnamed := List.forall₂_map_left_iff.mp halternatives
      have hdeclared : ∀ t ∈ catalog.definitions.filter (·.supertypes.contains b.name),
          t ∈ catalog.definitions := fun t ht => (List.mem_filter.mp ht).1
      refine ((List.forall₂_and_left _ _).mpr ⟨hdeclared, hnamed⟩).imp ?_
      rintro t ref ⟨ht, href⟩
      exact isAlternative_of_namedPosition? ht href

/-- A component without alternatives is reached by no further step. -/
theorem no_alternative_of_leaf (hd : d ∈ catalog.definitions)
    (hleaf : catalog.subtypesOf d.name = [])
    (hname : pass.registry.nameOf? (.type d.name) = some name) :
    ¬document.HasAlternative name other := by
  rintro ⟨schema, hschema, halternative⟩
  obtain ⟨depth, members, attachments, bases, ⟨placed, -, rfl⟩, hcomponent, -⟩ :=
    run.leaf_component hd hleaf hname
  cases hschema.symm.trans hcomponent
  rw [oneOf_applyAll] at halternative
  cases halternative

/-- One step along the alternatives goes to the component of a direct subtype. -/
theorem hasAlternative_step (hd : d ∈ catalog.definitions)
    (hname : pass.registry.nameOf? (.type d.name) = some name)
    (h : document.HasAlternative name other) :
    ∃ t ∈ catalog.definitions, catalog.IsSubtype d.name t.name ∧
      pass.registry.nameOf? (.type t.name) = some other := by
  by_cases hsub : catalog.subtypesOf d.name = []
  · exact absurd h (run.no_alternative_of_leaf hd hsub hname)
  · obtain ⟨alternatives, hcomponent, halternatives⟩ :=
      run.polymorphic_component hd hsub hname
    obtain ⟨schema, hschema, halternative⟩ := h
    cases hschema.symm.trans hcomponent
    obtain ⟨t, ht, href⟩ := exists_related_of_mem halternatives halternative
    unfold IsAlternative at href
    split at href
    · cases href
    · obtain ⟨known, hknown, heq⟩ := href
      rw [← SchemaRef.component_inj heq] at hknown
      exact ⟨t, (List.mem_filter.mp ht).1, List.mem_map_of_mem ht, hknown⟩

/-- Whatever the alternatives of a base lead to is the component of the base or of a type
below it. -/
theorem reached_below (hb : b ∈ catalog.definitions)
    (hname : pass.registry.nameOf? (.type b.name) = some name)
    (h : Relation.ReflTransGen document.HasAlternative name other) :
    ∃ t ∈ catalog.definitions, pass.registry.nameOf? (.type t.name) = some other ∧
      Relation.ReflTransGen catalog.IsSubtype b.name t.name := by
  induction h with
  | refl => exact ⟨b, hb, hname, .refl⟩
  | tail _ hstep ih =>
    obtain ⟨t, ht, htname, hpath⟩ := ih
    obtain ⟨u, hu, hsub, huname⟩ := run.hasAlternative_step ht htname hstep
    exact ⟨u, hu, huname, hpath.tail hsub⟩

/-- An object below a concrete base carries the discriminator property of the base. -/
theorem object_below_base (hb : ConcreteBase catalog d.name b) (hregistered : Registered pass b)
    (hd : d ∈ catalog.definitions) (hleaf : catalog.subtypesOf d.name = [])
    (hname : pass.registry.nameOf? (.type d.name) = some name) {schema : Schema}
    (hschema : document.schema? name = some schema) :
    schema.propertyMap.get? (Naming.discriminatorProperty b.simpleName) =
        some (.inline Schema.string) ∧
      Naming.discriminatorProperty b.simpleName ∈ schema.required.getD [] := by
  obtain ⟨depth, members, attachments, bases, ⟨placed, -, rfl⟩, hcomponent, -, hbases, hfrom⟩ :=
    run.leaf_component hd hleaf hname
  cases hschema.symm.trans hcomponent
  have hmem : b ∈ bases := (hbases b).mpr ⟨hb, hregistered⟩
  obtain ⟨a, ha, hproperty⟩ := (exists_property_iff hfrom _).mpr ⟨b, hmem, rfl⟩
  rw [hproperty]
  exact ⟨get?_applyAll_property rfl ha, (mem_required_applyAll rfl _).mpr (.inr ⟨a, ha, rfl⟩)⟩

end Run

/-- Polymorphic components are sound. The component of a type with subtypes lists exactly
its direct subtypes, in order of declaration, and has a description and, unless the type
is an interface, a discriminator, and nothing else; and every object that its alternatives
lead to, over any number of levels, has the property of that discriminator, as a required
text. -/
theorem polymorphic_component_sound (definitions : List TypeDefinition)
    (options : CompilerOptions) (interface : Interface) (document : Document) (pass : Pass)
    (h : interfacePass (.ofList definitions) options interface
      (.start options.collisionPolicy) = .ok document pass)
    (b : TypeDefinition) (hb : b ∈ (TypeCatalog.ofList definitions).definitions)
    (hsub : (TypeCatalog.ofList definitions).subtypesOf b.name ≠ [])
    (name : String) (hname : pass.registry.nameOf? (.type b.name) = some name) :
    ∃ component alternatives, document.schema? name = some component ∧
      component = {
        description := some b.name
        oneOf := some alternatives
        discriminator :=
          if b.isInterface then none else some ⟨"type_" ++ Text.lower b.simpleName⟩ } ∧
      List.Forall₂ (IsAlternative pass)
        ((TypeCatalog.ofList definitions).definitions.filter (·.supertypes.contains b.name))
        alternatives ∧
      ∀ property, component.discriminator = some ⟨property⟩ →
        ∀ other schema, Relation.ReflTransGen document.HasAlternative name other →
          document.schema? other = some schema → schema.type = some .object →
          schema.propertyMap.get? property = some (.inline Schema.string) ∧
            property ∈ schema.required.getD [] := by
  obtain ⟨served, log, p, run⟩ := exists_run h
  obtain ⟨alternatives, hcomponent, halternatives⟩ :=
    run.polymorphic_component hb hsub hname
  refine ⟨_, alternatives, hcomponent, rfl, halternatives, ?_⟩
  intro property hdiscriminator other schema hpath hschema hobject
  have hconcrete : b.isInterface = false ∧
      property = Naming.discriminatorProperty b.simpleName := by
    cases hinterface : b.isInterface with
    | true => simp [Resolver.polymorphicSchema, hinterface] at hdiscriminator
    | false => simpa [Resolver.polymorphicSchema, hinterface, eq_comm] using hdiscriminator
  obtain ⟨hinterface, rfl⟩ := hconcrete
  obtain ⟨t, ht, htname, hbelow⟩ := run.reached_below hb hname hpath
  -- Only a leaf is an object; on a cycle the alternatives may also lead back to a base.
  by_cases hleaf : (TypeCatalog.ofList definitions).subtypesOf t.name = []
  · refine run.object_below_base ⟨hb, ⟨hinterface, ?_⟩, hsub, ?_⟩ ⟨name, hname⟩ ht hleaf
      htname hschema
    · exact run.not_enum hb hname
    · rcases Relation.reflTransGen_iff_eq_or_transGen.mp hbelow with heq | hbelow
      · rw [heq] at hleaf
        exact absurd hleaf hsub
      · exact hbelow
  · obtain ⟨others, hpolymorphic, -⟩ := run.polymorphic_component ht hleaf htname
    cases hschema.symm.trans hpolymorphic
    cases hobject

theorem vehicle_component_sound :
    ∃ document pass, interfacePass (.ofList Fleet.types) {} Fleet.service (.start .error) =
        .ok document pass ∧
      Fleet.vehicle ∈ (TypeCatalog.ofList Fleet.types).definitions ∧
      (TypeCatalog.ofList Fleet.types).subtypesOf Fleet.vehicle.name ≠ [] ∧
      pass.registry.nameOf? (.type Fleet.vehicle.name) = some "Vehicle" ∧
      ∃ component alternatives, document.schema? "Vehicle" = some component ∧
        component.oneOf = some alternatives ∧
        List.Forall₂ (IsAlternative pass) ((TypeCatalog.ofList Fleet.types).definitions.filter
          (·.supertypes.contains Fleet.vehicle.name)) alternatives ∧
        ∀ other schema, Relation.ReflTransGen document.HasAlternative "Vehicle" other →
          document.schema? other = some schema → schema.type = some .object →
          schema.propertyMap.get? "type_vehicle" = some (.inline Schema.string) ∧
            "type_vehicle" ∈ schema.required.getD [] := by
  have hb : Fleet.vehicle ∈ (TypeCatalog.ofList Fleet.types).definitions := by decide +kernel
  have hsub : (TypeCatalog.ofList Fleet.types).subtypesOf Fleet.vehicle.name ≠ [] := by
    decide +kernel
  have hproperty : "type_" ++ Text.lower Fleet.vehicle.simpleName = "type_vehicle" := by
    decide +kernel
  obtain ⟨document, pass, h, hname, -⟩ := Fleet.exists_pass
  obtain ⟨component, alternatives, hcomponent, rfl, halternatives, hreached⟩ :=
    polymorphic_component_sound Fleet.types {} Fleet.service document pass h Fleet.vehicle hb
      hsub "Vehicle" hname
  refine ⟨document, pass, h, hb, hsub, hname, _, alternatives, hcomponent, rfl, halternatives,
    hreached "type_vehicle" ?_⟩
  rw [← hproperty]
  rfl

end Compilation

end RestContract
