import Mathlib.Data.List.Forall2
import RestContract.Proofs.Growth
import RestContract.Proofs.TypePositions

/-!
What resolution constructs. A construction is lawful in a registry if it is one of
four kinds: the empty object of a type that the catalog does not know, the object of
the members of a type without subtypes, the alternatives of a type with subtypes, or
the two lists of a map whose keys are not texts. Only a concrete type with subtypes
hands out attachments, one to each type below it. The law names the positions that a
schema is made of, so it outlives the growth of the registry.
-/
namespace RestContract

theorem exists_related_of_mem {α β : Type} {related : α → β → Prop} {as : List α} {bs : List β}
    {b : β} (h : List.Forall₂ related as bs) (hb : b ∈ bs) : ∃ a ∈ as, related a b := by
  induction h with
  | nil => cases hb
  | @cons first other as bs hfirst _ ih =>
    rcases List.mem_cons.mp hb with rfl | hrest
    · exact ⟨first, List.mem_cons_self .., hfirst⟩
    · obtain ⟨a, ha, hrelated⟩ := ih hrest
      exact ⟨a, List.mem_cons_of_mem _ ha, hrelated⟩

namespace Registry

variable {catalog : TypeCatalog} {r r' : Registry} {d : TypeDefinition} {depth : Nat}
  {schema : Schema} {attachments : List Attachment}

def PlacesMembers (catalog : TypeCatalog) (r : Registry) (depth : Nat) (members : List Member)
    (placed : List (String × SchemaRef)) : Prop :=
  List.Forall₂ (fun m entry =>
    entry.1 = m.name ∧ r.position? catalog m.type (depth + 1) = some entry.2) members placed

theorem PlacesMembers.names {members : List Member} {placed : List (String × SchemaRef)}
    (h : r.PlacesMembers catalog depth members placed) :
    placed.map Prod.fst = members.map Member.name := by
  unfold PlacesMembers at h
  induction h with
  | nil => rfl
  | cons hfirst _ ih => rw [List.map_cons, List.map_cons, hfirst.1, ih]

theorem PlacesMembers.mono {members : List Member} {placed : List (String × SchemaRef)}
    (h : r.PlacesMembers catalog depth members placed) (hext : r.Extends r') :
    r'.PlacesMembers catalog depth members placed := by
  refine h.imp ?_
  rintro m entry ⟨hname, hposition⟩
  exact ⟨hname, position?_mono hext hposition⟩

def IsMemberObject (catalog : TypeCatalog) (r : Registry) (d : TypeDefinition) (depth : Nat)
    (schema : Schema) : Prop :=
  ∃ placed, r.PlacesMembers catalog depth d.serializedMembers placed ∧
    schema = .objectOf (.ofList placed)

theorem IsMemberObject.mono (h : r.IsMemberObject catalog d depth schema)
    (hext : r.Extends r') : r'.IsMemberObject catalog d depth schema := by
  obtain ⟨placed, hplaced, rfl⟩ := h
  exact ⟨placed, hplaced.mono hext, rfl⟩

theorem IsMemberObject.mem_keys (h : r.IsMemberObject catalog d depth schema) (name : String) :
    name ∈ schema.propertyMap.keys ↔ name ∈ d.serializedMembers.map Member.name := by
  obtain ⟨placed, hplaced, rfl⟩ := h
  rw [← hplaced.names]
  exact SortedMap.mem_keys_ofList placed name

theorem IsMemberObject.covers (h : r.IsMemberObject catalog d depth schema) :
    r.Covers (.inline schema) := by
  obtain ⟨placed, hplaced, rfl⟩ := h
  refine covers_objectOf fun entry hentry => ?_
  obtain ⟨m, -, -, hposition⟩ := exists_related_of_mem hplaced hentry
  exact covers_of_position? hposition

/-- What a concrete type with subtypes hands out: to each type below it, itself apart,
its discriminator property and, if it has serialized members, the object of these. -/
def HandsDown (catalog : TypeCatalog) (r : Registry) (d : TypeDefinition) (depth : Nat)
    (attachments : List Attachment) : Prop :=
  ∃ (inherited : Option Schema) (below : List String),
    (inherited = none ↔ d.serializedMembers = []) ∧
    (∀ members, inherited = some members → r.IsMemberObject catalog d depth members) ∧
    below.Nodup ∧ (∀ name, name ∈ below ↔ catalog.Below d.name name ∧ name ≠ d.name) ∧
    attachments = below.map fun name =>
      ⟨.type name, Naming.discriminatorProperty d.simpleName, inherited,
        (catalog.subtypesOf d.name).contains name⟩

theorem HandsDown.mono (h : r.HandsDown catalog d depth attachments) (hext : r.Extends r') :
    r'.HandsDown catalog d depth attachments := by
  obtain ⟨inherited, below, hnone, hmembers, hrest⟩ := h
  exact ⟨inherited, below, hnone, fun members h => (hmembers members h).mono hext, hrest⟩

def Alternatives (catalog : TypeCatalog) (r : Registry) (base : String)
    (alternatives : List SchemaRef) : Prop :=
  List.Forall₂ (fun name ref => r.namedPosition? catalog name = some ref)
    (catalog.subtypesOf base) alternatives

theorem Alternatives.mono {base : String} {alternatives : List SchemaRef}
    (h : r.Alternatives catalog base alternatives) (hext : r.Extends r') :
    r'.Alternatives catalog base alternatives :=
  h.imp fun _ _ => namedPosition?_mono hext

end Registry

/-- The constructions that resolution makes. -/
inductive Lawful (catalog : TypeCatalog) (r : Registry) : Construction → Prop
  | undeclared {name : String} {t : TypeDescriptor} :
      catalog.lookup? t.name = none →
      Lawful catalog r
        ⟨t.simpleName, name, .type t.name, Schema.object.withDescription t.name, []⟩
  | leaf {name : String} {d : TypeDefinition} {depth : Nat} {members : Schema} :
      d ∈ catalog.definitions → d.isEnum = false → catalog.subtypesOf d.name = [] →
      r.IsMemberObject catalog d depth members →
      Lawful catalog r
        ⟨d.simpleName, name, .type d.name, members.withDescription d.name, []⟩
  | polymorphic {name : String} {d : TypeDefinition} {depth : Nat}
      {alternatives : List SchemaRef} {attachments : List Attachment} :
      d ∈ catalog.definitions → d.isEnum = false → catalog.subtypesOf d.name ≠ [] →
      r.Alternatives catalog d.name alternatives →
      (d.isInterface = true → attachments = []) →
      (d.isInterface = false → r.HandsDown catalog d depth attachments) →
      Lawful catalog r
        ⟨d.simpleName, name, .type d.name, Resolver.polymorphicSchema d alternatives, attachments⟩
  | compositeMap {name : String} {t key value : TypeDescriptor} {depth : Nat}
      {keys values : SchemaRef} :
      t.arguments = [key, value] → isText key = false →
      r.position? catalog key (depth + 1) = some keys →
      r.position? catalog value (depth + 1) = some values →
      Lawful catalog r
        ⟨Resolver.compositeMapName depth, name, .synthetic s!"map {t.qualified}",
          Resolver.compositeMapSchema key value keys values, []⟩

namespace Lawful

variable {catalog : TypeCatalog} {r r' : Registry} {c : Construction} {d : TypeDefinition}

theorem mono (h : Lawful catalog r c) (hext : r.Extends r') : Lawful catalog r' c := by
  cases h with
  | undeclared hlookup => exact .undeclared hlookup
  | leaf hd henum hsub hmembers => exact .leaf hd henum hsub (hmembers.mono hext)
  | polymorphic hd henum hsub halternatives hinterface hconcrete =>
    exact .polymorphic hd henum hsub (halternatives.mono hext) hinterface
      fun h => (hconcrete h).mono hext
  | compositeMap harguments htext hkeys hvalues =>
    exact .compositeMap harguments htext (Registry.position?_mono hext hkeys)
      (Registry.position?_mono hext hvalues)

/-- The schema of a construction refers to known names only. -/
theorem covers (h : Lawful catalog r c) : r.Covers (.inline c.schema) := by
  cases h with
  | undeclared => exact Registry.covers_withDescription Registry.covers_object
  | leaf _ _ _ hmembers => exact Registry.covers_withDescription hmembers.covers
  | @polymorphic name d depth alternatives attachments _ _ _ halternatives =>
    rw [Registry.covers_inline_iff]
    intro part hpart
    have halternative : part ∈ alternatives := by
      simpa [Schema.parts, Resolver.polymorphicSchema, SortedMap.empty] using hpart
    obtain ⟨subtype, -, hposition⟩ := exists_related_of_mem halternatives halternative
    exact Registry.covers_of_namedPosition? hposition
  | compositeMap _ _ hkeys hvalues =>
    refine Registry.covers_insertProperty (Registry.covers_insertProperty ?_ ?_) ?_
    · exact Registry.covers_withDescription Registry.covers_object
    · exact Registry.covers_array (Registry.covers_of_position? hkeys)
    · exact Registry.covers_array (Registry.covers_of_position? hvalues)

/-- Attachments come from concrete declared types with subtypes. -/
theorem handsDown (h : Lawful catalog r c) (hattachments : c.attachments ≠ []) :
    ∃ d ∈ catalog.definitions, ∃ depth, c.origin = .type d.name ∧ d.isEnum = false ∧
      d.isInterface = false ∧ catalog.subtypesOf d.name ≠ [] ∧
      r.HandsDown catalog d depth c.attachments := by
  cases h with
  | undeclared | leaf | compositeMap => exact absurd rfl hattachments
  | @polymorphic name d depth alternatives attachments hd henum hsub _ hinterface hconcrete =>
    cases hkind : d.isInterface with
    | true => exact absurd (hinterface hkind) hattachments
    | false => exact ⟨d, hd, depth, rfl, henum, hkind, hsub, hconcrete hkind⟩

theorem covers_inherited (h : Lawful catalog r c) {a : Attachment} (ha : a ∈ c.attachments)
    {members : Schema} (hmembers : a.inherited = some members) :
    r.Covers (.inline members) := by
  obtain ⟨d, -, depth, -, -, -, -, inherited, below, -, hobject, -, -, heq⟩ :=
    h.handsDown (List.ne_nil_of_mem ha)
  rw [heq] at ha
  obtain ⟨name, -, rfl⟩ := List.mem_map.mp ha
  exact (hobject members hmembers).covers

/-- The construction of a declared type is that of a leaf or of a type with subtypes, and
the type is no enumeration. -/
theorem of_declared (h : Lawful catalog r c)
    (hd : d ∈ catalog.definitions) (horigin : c.origin = .type d.name) :
    d.isEnum = false ∧
    ((catalog.subtypesOf d.name = [] ∧ ∃ depth members,
      r.IsMemberObject catalog d depth members ∧ c.schema = members.withDescription d.name) ∨
    (catalog.subtypesOf d.name ≠ [] ∧ ∃ alternatives,
      r.Alternatives catalog d.name alternatives ∧
      c.schema = Resolver.polymorphicSchema d alternatives ∧
      (d.isInterface = false → ∃ depth, r.HandsDown catalog d depth c.attachments))) := by
  cases h with
  | @undeclared name t hlookup =>
    injection horigin with hname
    rw [hname, TypeCatalog.lookup?_name hd] at hlookup
    cases hlookup
  | @leaf name d' depth members hd' henum hsub hmembers =>
    injection horigin with hname
    obtain rfl := TypeCatalog.eq_of_name_eq hd' hd hname
    exact ⟨henum, .inl ⟨hsub, depth, members, hmembers, rfl⟩⟩
  | @polymorphic name d' depth alternatives attachments hd' henum hsub halternatives _
      hconcrete =>
    injection horigin with hname
    obtain rfl := TypeCatalog.eq_of_name_eq hd' hd hname
    exact ⟨henum, .inr ⟨hsub, alternatives, halternatives, rfl, fun h => ⟨depth, hconcrete h⟩⟩⟩
  | compositeMap => cases horigin

end Lawful

end RestContract
