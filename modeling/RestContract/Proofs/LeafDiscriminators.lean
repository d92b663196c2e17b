import RestContract.Proofs.LeafComponents

/-!
The discriminator of a leaf. Every base of a leaf offers its own property as the
discriminator. A direct base writes over what is there and a farther one only fills a gap,
so with one direct base among them the outcome does not depend on the order in which the
bases arrive.
-/
namespace RestContract

open Attachment

variable {catalog : TypeCatalog} {r : Registry} {b : TypeDefinition} {name : String}
  {attachments : List Attachment} {bases : List TypeDefinition}

/-- A direct base of a type: declared, neither interface nor enumeration, and with the type
among its direct subtypes. -/
structure DirectBase (catalog : TypeCatalog) (name : String) (b : TypeDefinition) : Prop where
  declared : b ∈ catalog.definitions
  concrete : b.isInterface = false ∧ b.isEnum = false
  subtype : name ∈ catalog.subtypesOf b.name

theorem DirectBase.concreteBase (h : DirectBase catalog name b) : ConcreteBase catalog name b where
  declared := h.declared
  concrete := h.concrete
  subtypes := List.ne_nil_of_mem h.subtype
  below := .single h.subtype

theorem ConcreteBase.directBase (h : ConcreteBase catalog name b)
    (hsubtype : name ∈ catalog.subtypesOf b.name) : DirectBase catalog name b :=
  ⟨h.declared, h.concrete, hsubtype⟩

/-- An attachment on its way to a type is direct exactly if it comes from a direct base. -/
theorem ComesFrom.direct_iff {a : Attachment} (h : ComesFrom catalog r a b)
    (htarget : a.target = .type name) : a.direct = true ↔ name ∈ catalog.subtypesOf b.name := by
  rw [h.direct name htarget, List.contains_iff_mem]

/-- If the direct bases are one, the last direct attachment is from that one. -/
theorem getLast?_direct_of_bases (hfrom : List.Forall₂ (ComesFrom catalog r) attachments bases)
    (htarget : ∀ a ∈ attachments, a.target = .type name)
    (hone : ∀ b' ∈ bases, name ∈ catalog.subtypesOf b'.name ↔ b' = b) (hb : b ∈ bases) :
    ∃ last, (attachments.filter Attachment.direct).getLast? = some last ∧
      last.property = Naming.discriminatorProperty b.simpleName := by
  obtain ⟨a, ha, hown⟩ := exists_related_of_mem hfrom hb
  have hdirect : a ∈ attachments.filter Attachment.direct :=
    List.mem_filter.mpr ⟨ha, (hown.direct_iff (htarget a ha)).mpr ((hone b hb).mpr rfl)⟩
  obtain ⟨last, hlast⟩ := Option.ne_none_iff_exists'.mp
    (mt List.getLast?_eq_none_iff.mp (List.ne_nil_of_mem hdirect))
  obtain ⟨hmem, hlastDirect⟩ := List.mem_filter.mp (List.mem_of_getLast? hlast)
  obtain ⟨b', hb', hcomes⟩ := exists_related_of_mem hfrom.flip hmem
  have hsame : b' = b := (hone b' hb').mp ((hcomes.direct_iff (htarget last hmem)).mp hlastDirect)
  exact ⟨last, hlast, hsame ▸ hcomes.property⟩

def Fleet.car : TypeDefinition where
  name := "org.acme.Car"
  kind := .abstractClass
  supertypes := ["org.acme.Vehicle"]

namespace Compilation

/-- The discriminator of a leaf is that of its direct base. If a type without subtypes has
exactly one direct base with a component, the discriminator of its component names the
property of that base, whatever farther bases there are and in whatever order all these
types were resolved and completed. -/
theorem leaf_discriminator_of_direct_base (definitions : List TypeDefinition)
    (options : CompilerOptions) (interface : Interface) (document : Document) (pass : Pass)
    (h : interfacePass (.ofList definitions) options interface
      (.start options.collisionPolicy) = .ok document pass)
    (d : TypeDefinition) (hd : d ∈ (TypeCatalog.ofList definitions).definitions)
    (hleaf : (TypeCatalog.ofList definitions).subtypesOf d.name = [])
    (name : String) (hname : pass.registry.nameOf? (.type d.name) = some name)
    (b : TypeDefinition)
    (hone : ∀ b', DirectBase (.ofList definitions) d.name b' ∧ Registered pass b' ↔ b' = b) :
    ∃ schema, document.schema? name = some schema ∧
      schema.discriminator = some ⟨Naming.discriminatorProperty b.simpleName⟩ := by
  obtain ⟨served, log, p, run⟩ := exists_run h
  obtain ⟨before, c, after, depth, members, bases, -, -, ⟨placed, -, rfl⟩, hschema, -, hbases,
    hfrom⟩ := run.leaf_arrivals hd hleaf hname
  refine ⟨_, hschema, ?_⟩
  have htarget : ∀ a ∈ aimedAt (.type d.name) (handedOut (after ++ before)),
      a.target = .type d.name := fun a ha => (mem_aimedAt.mp ha).2
  have hdirect : ∀ b' ∈ bases,
      d.name ∈ (TypeCatalog.ofList definitions).subtypesOf b'.name ↔ b' = b := by
    intro b' hb'
    obtain ⟨hbase, hregistered⟩ := (hbases b').mp hb'
    constructor
    · exact fun hsubtype => (hone b').mp ⟨hbase.directBase hsubtype, hregistered⟩
    · exact fun heq => ((hone b').mpr heq).1.subtype
  obtain ⟨hbase, hregistered⟩ := (hone b).mpr rfl
  obtain ⟨last, hlast, hproperty⟩ := getLast?_direct_of_bases hfrom htarget hdirect
    ((hbases b).mpr ⟨hbase.concreteBase, hregistered⟩)
  rw [discriminator_applyAll rfl, hlast, ← hproperty]
  rfl

/-- The vehicle is a base of the cabrio as well, but not a direct one. -/
theorem cabrio_discriminator_of_car : ∃ document pass,
    interfacePass (.ofList Fleet.types) {} Fleet.service (.start .error) = .ok document pass ∧
      Fleet.cabrio ∈ (TypeCatalog.ofList Fleet.types).definitions ∧
      (TypeCatalog.ofList Fleet.types).subtypesOf Fleet.cabrio.name = [] ∧
      pass.registry.nameOf? (.type Fleet.cabrio.name) = some "Cabrio" ∧
      (∀ b, DirectBase (.ofList Fleet.types) Fleet.cabrio.name b ∧ Registered pass b ↔
        b = Fleet.car) ∧
      ConcreteBase (.ofList Fleet.types) Fleet.cabrio.name Fleet.vehicle ∧
      ∃ schema, document.schema? "Cabrio" = some schema ∧
        schema.discriminator = some ⟨"type_car"⟩ := by
  have hnames : (pass? (.ofList Fleet.types) {} Fleet.service).map (fun result =>
      [Fleet.cabrio, Fleet.car].map fun d => result.2.registry.nameOf? (.type d.name)) =
        some [some "Cabrio", some "Car"] := by decide +kernel
  obtain ⟨⟨document, pass⟩, hsome, hlist⟩ := Option.map_eq_some_iff.mp hnames
  injection hlist with hcabrio hrest
  injection hrest with hcar
  have h := pass?_eq_some.mp hsome
  have hd : Fleet.cabrio ∈ (TypeCatalog.ofList Fleet.types).definitions := by decide +kernel
  have hleaf : (TypeCatalog.ofList Fleet.types).subtypesOf Fleet.cabrio.name = [] := by
    decide +kernel
  have hdirect : DirectBase (.ofList Fleet.types) Fleet.cabrio.name Fleet.car :=
    ⟨by decide +kernel, by decide +kernel, by decide +kernel⟩
  have honly : ∀ b ∈ (TypeCatalog.ofList Fleet.types).definitions,
      Fleet.cabrio.name ∈ (TypeCatalog.ofList Fleet.types).subtypesOf b.name → b = Fleet.car := by
    decide +kernel
  have hone : ∀ b, DirectBase (.ofList Fleet.types) Fleet.cabrio.name b ∧ Registered pass b ↔
      b = Fleet.car := by
    intro b
    constructor
    · rintro ⟨hbase, -⟩
      exact honly b hbase.declared hbase.subtype
    · rintro rfl
      exact ⟨hdirect, "Car", hcar⟩
  have hvehicle : Fleet.car.name ∈ (TypeCatalog.ofList Fleet.types).subtypesOf
      Fleet.vehicle.name := by decide +kernel
  have hproperty : Naming.discriminatorProperty Fleet.car.simpleName = "type_car" := by
    decide +kernel
  obtain ⟨schema, hschema, hdiscriminator⟩ := leaf_discriminator_of_direct_base Fleet.types {}
    Fleet.service document pass h Fleet.cabrio hd hleaf "Cabrio" hcabrio Fleet.car hone
  refine ⟨document, pass, h, hd, hleaf, hcabrio, hone, ?_, schema, hschema, ?_⟩
  · exact ⟨by decide +kernel, by decide +kernel, List.ne_nil_of_mem hvehicle,
      .tail (.single hvehicle) hdirect.subtype⟩
  · rw [hdiscriminator, hproperty]

end Compilation

end RestContract
