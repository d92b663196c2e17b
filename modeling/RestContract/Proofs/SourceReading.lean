import RestContract.Proofs.CatalogOrder
import RestContract.Proofs.DescriptorTexts
import RestContract.Proofs.JsonRecords
import RestContract.Source.Basic

/-!
Contract sources written as JSON and read again. A source is normal if its descriptors are
well named and its catalog is one that insertion leads to. Whatever is read is normal, in
any format: descriptors were read from texts, and the catalog was built by insertion. What
is normal is read again from what it is written as: a field that is left out takes the
default for which it was left out, and routing metadata is written even if all of it is
absent.
-/
namespace RestContract

def Parameter.Normal (p : Parameter) : Prop := p.type.WellNamed

structure Operation.Normal (o : Operation) : Prop where
  parameters : ∀ p ∈ o.parameters, p.Normal
  returns : o.returns.WellNamed

def Interface.Normal (i : Interface) : Prop := ∀ o ∈ i.operations, o.Normal

def Member.Normal (m : Member) : Prop := m.type.WellNamed

def TypeDefinition.Normal (d : TypeDefinition) : Prop := ∀ m ∈ d.members, m.Normal

structure TypeCatalog.Normal (c : TypeCatalog) : Prop where
  inserted : ∃ given, c = .ofList given
  definitions : ∀ d ∈ c.definitions, d.Normal

structure ContractSource.Normal (s : ContractSource) : Prop where
  interfaces : ∀ i ∈ s.interfaces, i.Normal
  types : s.types.Normal

namespace Json

variable {α : Type}

def listPlace (encode : α → Json) : List α → Option Json
  | [] => none
  | items => some (.array (items.map encode))

def flagPlace (flag : Bool) : Option Json := if flag then some (.bool true) else none

theorem fieldsOf_cons_list (name : String) (encode : α → Json) (items : List α)
    (rest : List (String × Option Json)) :
    fieldsOf ((name, listPlace encode items) :: rest) =
      listField name encode items ++ fieldsOf rest := by
  cases items <;> rfl

theorem fieldsOf_cons_flag (name : String) (flag : Bool) (rest : List (String × Option Json)) :
    fieldsOf ((name, flagPlace flag) :: rest) = flagField name flag ++ fieldsOf rest := by
  cases flag <;> rfl

variable {encode : α → Json} {decode : Json → Option α} {name : String}
  {places : List (String × Option Json)}

theorem list_recordOf (hplaces : (places.map Prod.fst).Nodup) {items : List α}
    (hplace : places.lookup name = some (listPlace encode items))
    (h : ∀ a ∈ items, decode (encode a) = some a) :
    (recordOf places).withDefault? name [] (DataNode.listOf? decode) = some items := by
  cases items with
  | nil => exact Record.withDefault?_of_omitted hplaces hplace
  | cons first rest => exact Record.withDefault?_of_written hplaces hplace (listOf?_map h)

theorem flag_recordOf (hplaces : (places.map Prod.fst).Nodup) {flag : Bool}
    (hplace : places.lookup name = some (flagPlace flag)) :
    (recordOf places).withDefault? name false DataNode.flag? = some flag := by
  cases flag with
  | false => exact Record.withDefault?_of_omitted hplaces hplace
  | true => exact Record.withDefault?_of_written hplaces hplace rfl

end Json

open Json

variable {ν : Type} [DataNode ν]

namespace TypeDescriptor

theorem wellNamed_void : void.WellNamed := by
  refine .mk ⟨by decide, ?_⟩ (by simp)
  have hchars : "void".toList.all isNameChar = true := by decide +kernel
  exact fun c hc => isNameChar_iff.mp (List.all_eq_true.mp hchars c hc)

theorem ofNode?_toJson {t : TypeDescriptor} (h : t.WellNamed) : ofNode? t.toJson = some t := by
  change (parse t.qualified).toOption = some t
  rw [parse_qualified_of_wellNamed h]
  rfl

theorem wellNamed_of_ofNode? (node : ν) (t : TypeDescriptor) (h : ofNode? node = some t) :
    t.WellNamed := by
  unfold ofNode? at h
  split at h
  next text _ =>
    cases hparse : parse text with
    | ok t' =>
      rw [hparse] at h
      cases h
      exact wellNamed_of_parse hparse
    | error e =>
      rw [hparse] at h
      cases h
  next => cases h

end TypeDescriptor

theorem TypeKind.ofNode?_toJson (kind : TypeKind) : ofNode? kind.toJson = some kind := by
  cases kind <;> rfl

namespace Member

theorem ofNode?_toJson {m : Member} (h : m.Normal) : ofNode? m.toJson = some m := by
  let places := [("name", some (.string m.name)), ("type", some m.type.toJson),
    ("transient", flagPlace m.transient), ("synthetic", flagPlace m.synthetic)]
  have hplaces : (places.map Prod.fst).Nodup := by simp [places]
  have hjson : m.toJson = .object (fieldsOf places) := by
    simp only [places, toJson, fieldsOf_cons_flag, fieldsOf, List.cons_append, List.nil_append,
      List.append_nil]
  have hname : (recordOf places).required? "name" DataNode.text? = some m.name :=
    Record.required?_recordOf hplaces rfl rfl
  have htype : (recordOf places).required? "type" TypeDescriptor.ofNode? = some m.type :=
    Record.required?_recordOf hplaces rfl (TypeDescriptor.ofNode?_toJson h)
  have htransient : (recordOf places).withDefault? "transient" false DataNode.flag? =
      some m.transient := flag_recordOf hplaces rfl
  have hsynthetic : (recordOf places).withDefault? "synthetic" false DataNode.flag? =
      some m.synthetic := flag_recordOf hplaces rfl
  rw [hjson, ofNode?]
  simp [DataNode.record?, record?_fieldsOf hplaces, hname, htype, htransient, hsynthetic]

theorem normal_of_ofNode? (node : ν) (m : Member) (h : ofNode? node = some m) : m.Normal := by
  simp only [ofNode?, Option.bind_eq_bind, Option.bind_eq_some_iff] at h
  obtain ⟨r, -, name, -, type, htype, transient, -, synthetic, -, heq⟩ := h
  cases heq
  show type.WellNamed
  exact Record.of_required? TypeDescriptor.wellNamed_of_ofNode? htype

end Member

namespace TypeDefinition

theorem ofNode?_toJson {d : TypeDefinition} (h : d.Normal) : ofNode? d.toJson = some d := by
  let places := [("name", some (.string d.name)), ("kind", some d.kind.toJson),
    ("supertypes", listPlace Json.string d.supertypes),
    ("members", listPlace Member.toJson d.members),
    ("constants", listPlace Json.string d.constants)]
  have hplaces : (places.map Prod.fst).Nodup := by simp [places]
  have hjson : d.toJson = .object (fieldsOf places) := by
    simp only [places, toJson, fieldsOf_cons_list, fieldsOf, List.cons_append, List.nil_append,
      List.append_nil, List.append_assoc]
  have hname : (recordOf places).required? "name" DataNode.text? = some d.name :=
    Record.required?_recordOf hplaces rfl rfl
  have hkind : (recordOf places).withDefault? "kind" .concreteClass TypeKind.ofNode? =
      some d.kind :=
    Record.withDefault?_of_written hplaces rfl d.kind.ofNode?_toJson
  have hsupertypes : (recordOf places).withDefault? "supertypes" []
      (DataNode.listOf? DataNode.text?) = some d.supertypes :=
    list_recordOf hplaces rfl fun _ _ => rfl
  have hmembers : (recordOf places).withDefault? "members" [] (DataNode.listOf? Member.ofNode?) =
      some d.members := list_recordOf hplaces rfl fun m hm => Member.ofNode?_toJson (h m hm)
  have hconstants : (recordOf places).withDefault? "constants" []
      (DataNode.listOf? DataNode.text?) = some d.constants :=
    list_recordOf hplaces rfl fun _ _ => rfl
  rw [hjson, ofNode?]
  simp [DataNode.record?, record?_fieldsOf hplaces, hname, hkind, hsupertypes, hmembers,
    hconstants]

theorem normal_of_ofNode? (node : ν) (d : TypeDefinition) (h : ofNode? node = some d) :
    d.Normal := by
  simp only [ofNode?, Option.bind_eq_bind, Option.bind_eq_some_iff] at h
  obtain ⟨r, -, name, -, kind, -, supertypes, -, members, hmembers, constants, -, heq⟩ := h
  cases heq
  exact Record.of_withDefault?
    (fun _ _ => DataNode.forall_of_listOf? Member.normal_of_ofNode?) (by simp) hmembers

end TypeDefinition

namespace TypeCatalog

theorem ofNode?_toJson {c : TypeCatalog} (h : c.Normal) : ofNode? c.toJson = some c := by
  obtain ⟨given, rfl⟩ := h.inserted
  have hdefinitions : DataNode.listOf? TypeDefinition.ofNode? (ofList given).toJson =
      some (ofList given).definitions :=
    listOf?_map fun d hd => TypeDefinition.ofNode?_toJson (h.definitions d hd)
  rw [ofNode?, hdefinitions, Option.map_some, ofList_definitions_ofList]

theorem normal_empty : empty.Normal := ⟨⟨[], rfl⟩, by simp [empty]⟩

theorem normal_of_ofNode? (node : ν) (c : TypeCatalog) (h : ofNode? node = some c) :
    c.Normal := by
  obtain ⟨given, hgiven, rfl⟩ := Option.map_eq_some_iff.mp h
  refine ⟨⟨given, rfl⟩, fun d hd => ?_⟩
  exact DataNode.forall_of_listOf? TypeDefinition.normal_of_ofNode? hgiven d
    (mem_of_mem_ofList hd)

end TypeCatalog

namespace RouteMetadata

/-- Metadata is read again whatever of it is absent. -/
theorem ofNode?_toJson (route : RouteMetadata) : ofNode? route.toJson = some route := by
  let places := [("path", route.path.map Json.string), ("method", route.method.map Json.string),
    ("tag", route.tag.map Json.string), ("description", route.description.map Json.string)]
  have hplaces : (places.map Prod.fst).Nodup := by simp [places]
  have hjson : route.toJson = .object (fieldsOf places) := by
    simp only [places, toJson, fieldsOf_cons_map, fieldsOf, List.append_nil, List.append_assoc]
  have hpath : (recordOf places).trailing? "path" DataNode.text? = some route.path :=
    Record.trailing?_recordOf hplaces rfl rfl fun _ _ => rfl
  have hmethod : (recordOf places).trailing? "method" DataNode.text? = some route.method :=
    Record.trailing?_recordOf hplaces rfl rfl fun _ _ => rfl
  have htag : (recordOf places).trailing? "tag" DataNode.text? = some route.tag :=
    Record.trailing?_recordOf hplaces rfl rfl fun _ _ => rfl
  have hdescription : (recordOf places).trailing? "description" DataNode.text? =
      some route.description := Record.trailing?_recordOf hplaces rfl rfl fun _ _ => rfl
  rw [hjson, ofNode?]
  simp [DataNode.record?, record?_fieldsOf hplaces, hpath, hmethod, htag, hdescription]

end RouteMetadata

namespace Parameter

theorem ofNode?_toJson {p : Parameter} (h : p.Normal) : ofNode? p.toJson = some p := by
  let places := [("name", some (.string p.name)), ("type", some p.type.toJson)]
  have hplaces : (places.map Prod.fst).Nodup := by simp [places]
  have hjson : p.toJson = .object (fieldsOf places) := rfl
  have hname : (recordOf places).required? "name" DataNode.text? = some p.name :=
    Record.required?_recordOf hplaces rfl rfl
  have htype : (recordOf places).required? "type" TypeDescriptor.ofNode? = some p.type :=
    Record.required?_recordOf hplaces rfl (TypeDescriptor.ofNode?_toJson h)
  rw [hjson, ofNode?]
  simp [DataNode.record?, record?_fieldsOf hplaces, hname, htype]

theorem normal_of_ofNode? (node : ν) (p : Parameter) (h : ofNode? node = some p) :
    p.Normal := by
  simp only [ofNode?, Option.bind_eq_bind, Option.bind_eq_some_iff] at h
  obtain ⟨r, -, name, -, type, htype, heq⟩ := h
  cases heq
  show type.WellNamed
  exact Record.of_required? TypeDescriptor.wellNamed_of_ofNode? htype

end Parameter

namespace Operation

theorem ofNode?_toJson {o : Operation} (h : o.Normal) : ofNode? o.toJson = some o := by
  let places := [("name", some (.string o.name)),
    ("parameters", listPlace Parameter.toJson o.parameters),
    ("returns", some o.returns.toJson), ("route", o.route.map RouteMetadata.toJson)]
  have hplaces : (places.map Prod.fst).Nodup := by simp [places]
  have hjson : o.toJson = .object (fieldsOf places) := by
    simp only [places, toJson, fieldsOf, fieldsOf_cons_list, fieldsOf_cons_map, List.cons_append,
      List.nil_append, List.append_nil, List.append_assoc]
  have hname : (recordOf places).required? "name" DataNode.text? = some o.name :=
    Record.required?_recordOf hplaces rfl rfl
  have hparameters : (recordOf places).withDefault? "parameters" []
      (DataNode.listOf? Parameter.ofNode?) = some o.parameters :=
    list_recordOf hplaces rfl fun p hp => Parameter.ofNode?_toJson (h.parameters p hp)
  have hreturns : (recordOf places).withDefault? "returns" .void TypeDescriptor.ofNode? =
      some o.returns :=
    Record.withDefault?_of_written hplaces rfl (TypeDescriptor.ofNode?_toJson h.returns)
  have hroute : (recordOf places).trailing? "route" RouteMetadata.ofNode? = some o.route :=
    Record.trailing?_recordOf hplaces rfl rfl fun route _ => route.ofNode?_toJson
  rw [hjson, ofNode?]
  simp [DataNode.record?, record?_fieldsOf hplaces, hname, hparameters, hreturns, hroute]

theorem normal_of_ofNode? (node : ν) (o : Operation) (h : ofNode? node = some o) :
    o.Normal := by
  simp only [ofNode?, Option.bind_eq_bind, Option.bind_eq_some_iff] at h
  obtain ⟨r, -, name, -, parameters, hparameters, returns, hreturns, route, -, heq⟩ := h
  cases heq
  constructor
  · exact Record.of_withDefault?
      (fun _ _ => DataNode.forall_of_listOf? Parameter.normal_of_ofNode?) (by simp) hparameters
  · exact Record.of_withDefault? TypeDescriptor.wellNamed_of_ofNode?
      TypeDescriptor.wellNamed_void hreturns

end Operation

namespace Interface

theorem ofNode?_toJson {i : Interface} (h : i.Normal) : ofNode? i.toJson = some i := by
  let places := [("name", some (Json.string i.name)),
    ("operations", some (.array (i.operations.map Operation.toJson)))]
  have hplaces : (places.map Prod.fst).Nodup := by simp [places]
  have hjson : i.toJson = .object (fieldsOf places) := rfl
  have hname : (recordOf places).required? "name" DataNode.text? = some i.name :=
    Record.required?_recordOf hplaces rfl rfl
  have hoperations : (recordOf places).withDefault? "operations" []
      (DataNode.listOf? Operation.ofNode?) = some i.operations :=
    Record.withDefault?_of_written hplaces rfl
      (listOf?_map fun o ho => Operation.ofNode?_toJson (h o ho))
  rw [hjson, ofNode?]
  simp [DataNode.record?, record?_fieldsOf hplaces, hname, hoperations]

theorem normal_of_ofNode? (node : ν) (i : Interface) (h : ofNode? node = some i) :
    i.Normal := by
  simp only [ofNode?, Option.bind_eq_bind, Option.bind_eq_some_iff] at h
  obtain ⟨r, -, name, -, operations, hoperations, heq⟩ := h
  cases heq
  exact Record.of_withDefault?
    (fun _ _ => DataNode.forall_of_listOf? Operation.normal_of_ofNode?) (by simp) hoperations

end Interface

namespace ContractSource

theorem ofNode?_toJson {s : ContractSource} (h : s.Normal) : ofNode? s.toJson = some s := by
  let places := [("interfaces", some (.array (s.interfaces.map Interface.toJson))),
    ("types", some s.types.toJson)]
  have hplaces : (places.map Prod.fst).Nodup := by simp [places]
  have hjson : s.toJson = .object (fieldsOf places) := rfl
  have hinterfaces : (recordOf places).withDefault? "interfaces" []
      (DataNode.listOf? Interface.ofNode?) = some s.interfaces :=
    Record.withDefault?_of_written hplaces rfl
      (listOf?_map fun i hi => Interface.ofNode?_toJson (h.interfaces i hi))
  have htypes : (recordOf places).withDefault? "types" .empty TypeCatalog.ofNode? =
      some s.types :=
    Record.withDefault?_of_written hplaces rfl (TypeCatalog.ofNode?_toJson h.types)
  rw [hjson, ofNode?]
  simp [DataNode.record?, record?_fieldsOf hplaces, hinterfaces, htypes]

theorem normal_of_ofNode? (node : ν) (s : ContractSource) (h : ofNode? node = some s) :
    s.Normal := by
  simp only [ofNode?, Option.bind_eq_bind, Option.bind_eq_some_iff] at h
  obtain ⟨r, -, interfaces, hinterfaces, types, htypes, heq⟩ := h
  cases heq
  constructor
  · exact Record.of_withDefault?
      (fun _ _ => DataNode.forall_of_listOf? Interface.normal_of_ofNode?) (by simp) hinterfaces
  · exact Record.of_withDefault? TypeCatalog.normal_of_ofNode? TypeCatalog.normal_empty htypes

/-- The definitions that a node gives, in order, with repeated names. -/
def givenTypes? (node : ν) : Option (List TypeDefinition) := do
  let r ← DataNode.record? ["interfaces", "types"] node
  r.withDefault? "types" [] (DataNode.listOf? TypeDefinition.ofNode?)

/-- The catalog of a source is built from the definitions given for it. -/
theorem types_of_ofNode? {node : ν} {s : ContractSource} (h : ofNode? node = some s) :
    ∃ given, givenTypes? node = some given ∧ s.types = .ofList given := by
  simp only [ofNode?, Option.bind_eq_bind, Option.bind_eq_some_iff] at h
  obtain ⟨r, hrecord, interfaces, -, types, htypes, heq⟩ := h
  cases heq
  unfold Record.withDefault? at htypes
  unfold givenTypes? Record.withDefault?
  rw [hrecord]
  cases hfield : r.get? "types" with
  | none =>
    rw [hfield] at htypes
    cases htypes
    exact ⟨[], by simp [hfield], rfl⟩
  | some field =>
    rw [hfield] at htypes
    obtain ⟨given, hgiven, rfl⟩ := Option.map_eq_some_iff.mp htypes
    exact ⟨given, by simp [hfield, hgiven], rfl⟩

/-- A source that was read is read again from what it is written as. Its catalog has each
name for which definitions were given once, in the order of first mention, and under that
name, also when it is looked up, the last definition given for it. -/
theorem read_source_is_normal (j : Json) (s : ContractSource) (h : ofNode? j = some s) :
    ofNode? s.toJson = some s ∧
    ∃ given, givenTypes? j = some given ∧
      s.types.names = (given.map TypeDefinition.name).eraseDups ∧
      (∀ d ∈ s.types.definitions, given.findRev? (fun e => e.name == d.name) = some d) ∧
      ∀ d ∈ given, s.types.lookup? d.name = given.findRev? fun e => e.name == d.name := by
  refine ⟨ofNode?_toJson (normal_of_ofNode? j s h), ?_⟩
  obtain ⟨given, hgiven, htypes⟩ := types_of_ofNode? h
  rw [htypes]
  refine ⟨given, hgiven, TypeCatalog.names_ofList given, fun d hd => ?_, fun d hd => ?_⟩
  · exact TypeCatalog.last_of_mem_ofList hd
  · exact TypeCatalog.lookup?_ofList hd

end ContractSource

-- A source with a type given twice, an interface written as a list, blanks and a wildcard in a
-- descriptor, empty routing metadata, and fields that nothing asks for.
namespace Lockers

def written : Json :=
  .object [("note", .null),
    ("types", .array [
      .object [("name", .string "org.acme.Key"), ("kind", .object [("enum", .null)])],
      .object [("constants", .array []), ("name", .string "org.acme.Box"), ("since", .bool true)],
      .object [("name", .string "org.acme.Key"),
        ("members", .array [.array [.string "owner", .string " ? "]])]]),
    ("interfaces", .array [.array [.string "org.acme.ILockers", .array [
      .object [("name", .string "open"), ("route", .object []),
        ("parameters", .array [.object [("type", .string "List <? extends org.acme.Key >"),
          ("name", .string "keys")]])]]]])]

def key : TypeDefinition where
  name := "org.acme.Key"
  members := [⟨"owner", .object, false, false⟩]

def source : ContractSource where
  interfaces := [⟨"org.acme.ILockers", [{ name := "open", route := some {}
                                          parameters := [⟨"keys", ⟨"List",
                                            [.ofName "org.acme.Key"]⟩⟩] }]⟩]
  types := .ofList [key, { name := "org.acme.Box" }]

/-- The key comes before the box, where it was first given, and as it was last given. -/
theorem lockers_read_source_is_normal :
    ContractSource.ofNode? written = some source ∧
    ContractSource.ofNode? source.toJson = some source ∧
    source.types.names = ["org.acme.Key", "org.acme.Box"] ∧
    ∃ given, ContractSource.givenTypes? written = some given ∧ given.length = 3 ∧
      given.findRev? (fun e => e.name == key.name) = some key := by
  have hread : ContractSource.ofNode? written = some source := by decide +kernel
  obtain ⟨hagain, given, hgiven, -, hlast, -⟩ :=
    ContractSource.read_source_is_normal written source hread
  refine ⟨hread, hagain, rfl, given, hgiven, ?_, hlast key (by decide +kernel)⟩
  have hlength : (ContractSource.givenTypes? written).map List.length = some 3 := by
    decide +kernel
  simpa [hgiven] using hlength

end Lockers

end RestContract
