import RestContract.Data.Node
import RestContract.Descriptor.Reading
import RestContract.Json.Decoding

/-!
Declared types and the catalog that holds them. The catalog keeps its definitions
in order of declaration; a definition of a name that is already there takes the
place of the old one. Each name has a slot, the position of its definition.
-/
namespace RestContract

inductive TypeKind where
  | concreteClass
  | abstractClass
  | interface
  | enum
  deriving DecidableEq, Repr

structure Member where
  name : String
  type : TypeDescriptor
  transient : Bool := false
  synthetic : Bool := false
  deriving DecidableEq

/-- Part of the serialized shape of its type. -/
def Member.isSerialized (m : Member) : Bool := !m.transient && !m.synthetic

structure TypeDefinition where
  name : String
  kind : TypeKind := .concreteClass
  supertypes : List String := []
  members : List Member := []
  constants : List String := []
  deriving DecidableEq

namespace TypeDefinition

def simpleName (d : TypeDefinition) : String := Naming.simpleName d.name

def isInterface (d : TypeDefinition) : Bool := d.kind == .interface

def isEnum (d : TypeDefinition) : Bool := d.kind == .enum

def serializedMembers (d : TypeDefinition) : List Member := d.members.filter Member.isSerialized

end TypeDefinition

structure TypeCatalog where
  definitions : List TypeDefinition
  slots : List (String × Nat)
  /-- The slot of a name is the one position whose definition has that name. -/
  indexed : ∀ name slot, slots.lookup name = some slot ↔
    (definitions[slot]?).map TypeDefinition.name = some name
  deriving DecidableEq

namespace TypeCatalog

def empty : TypeCatalog := ⟨[], [], by simp⟩

theorem indexed_set (c : TypeCatalog) {d : TypeDefinition} {slot : Nat}
    (hslot : c.slots.lookup d.name = some slot) (name : String) (other : Nat) :
    c.slots.lookup name = some other ↔
      ((c.definitions.set slot d)[other]?).map TypeDefinition.name = some name := by
  have hold := (c.indexed d.name slot).mp hslot
  rw [c.indexed name other, List.getElem?_set]
  by_cases heq : slot = other
  · subst other
    obtain ⟨old, hget, hname⟩ := Option.map_eq_some_iff.mp hold
    have hlt : slot < c.definitions.length := (List.getElem?_eq_some_iff.mp hget).1
    rw [if_pos rfl, if_pos hlt, hget, Option.map_some, Option.map_some, hname]
  · simp [heq]

/-- A definition at the end adds one slot and one position. -/
theorem indexed_concat (c : TypeCatalog) {d : TypeDefinition}
    (hnone : c.slots.lookup d.name = none) (name : String) (slot : Nat) :
    (c.slots ++ [(d.name, c.definitions.length)]).lookup name = some slot ↔
      ((c.definitions ++ [d])[slot]?).map TypeDefinition.name = some name := by
  have hleft : (c.slots ++ [(d.name, c.definitions.length)]).lookup name = some slot ↔
      c.slots.lookup name = some slot ∨ name = d.name ∧ slot = c.definitions.length := by
    rw [List.lookup_append]
    by_cases hname : name = d.name
    · simp [hname, hnone, eq_comm]
    · have hother : (name == d.name) = false := by simpa using hname
      simp [List.lookup_cons, hother, hname]
  have hright : ((c.definitions ++ [d])[slot]?).map TypeDefinition.name = some name ↔
      (c.definitions[slot]?).map TypeDefinition.name = some name ∨
        name = d.name ∧ slot = c.definitions.length := by
    by_cases hlt : slot < c.definitions.length
    · have hne : slot ≠ c.definitions.length := by omega
      simp [List.getElem?_append_left hlt, hne]
    · have hpast : c.definitions[slot]? = none := List.getElem?_eq_none (by omega)
      rw [List.getElem?_append_right (by omega), hpast]
      by_cases heq : slot = c.definitions.length
      · simp [heq, eq_comm]
      · have hgap : [d][slot - c.definitions.length]? = none :=
          List.getElem?_eq_none (by simp only [List.length_singleton]; omega)
        simp [heq, hgap]
  rw [hleft, hright, c.indexed name slot]

def insert (c : TypeCatalog) (d : TypeDefinition) : TypeCatalog :=
  match h : c.slots.lookup d.name with
  | some slot => ⟨c.definitions.set slot d, c.slots, c.indexed_set h⟩
  | none =>
      ⟨c.definitions ++ [d], c.slots ++ [(d.name, c.definitions.length)], c.indexed_concat h⟩

def ofList (definitions : List TypeDefinition) : TypeCatalog := definitions.foldl insert empty

def size (c : TypeCatalog) : Nat := c.definitions.length

def isEmpty (c : TypeCatalog) : Bool := c.definitions.isEmpty

/-- The definition of a simple name, if exactly one has it. -/
def lookupSimple? (c : TypeCatalog) (name : String) : Option TypeDefinition :=
  match c.definitions.filter (·.simpleName == name) with
  | [d] => some d
  | _ => none

def lookup? (c : TypeCatalog) (name : String) : Option TypeDefinition :=
  match c.slots.lookup name with
  | some slot => c.definitions[slot]?
  | none => if Naming.isQualified name then none else c.lookupSimple? name

/-- The names of the direct subtypes, in order of declaration. -/
def subtypesOf (c : TypeCatalog) (name : String) : List String :=
  (c.definitions.filter (·.supertypes.contains name)).map TypeDefinition.name

end TypeCatalog

/-! Reading and writing declared types. -/

namespace TypeDescriptor

variable {ν : Type} [DataNode ν]

def ofNode? (node : ν) : Option TypeDescriptor :=
  match DataNode.text? node with
  | some text => (parse text).toOption
  | none => none

def toJson (t : TypeDescriptor) : Json := .string t.qualified

end TypeDescriptor

/-- A list field that is left out when it is empty. -/
def Json.listField {α : Type} (name : String) (encode : α → Json) :
    List α → List (String × Json)
  | [] => []
  | items => [(name, .array (items.map encode))]

/-- A flag field that is left out when it is not set. -/
def Json.flagField (name : String) (flag : Bool) : List (String × Json) :=
  if flag then [(name, .bool true)] else []

namespace TypeKind

def name : TypeKind → String
  | concreteClass => "class"
  | abstractClass => "abstract_class"
  | interface => "interface"
  | enum => "enum"

def ofName? : String → Option TypeKind
  | "class" => some concreteClass
  | "abstract_class" => some abstractClass
  | "interface" => some interface
  | "enum" => some enum
  | _ => none

def ofNode? {ν : Type} [DataNode ν] (node : ν) : Option TypeKind :=
  (DataNode.choice? node).bind ofName?

def toJson (kind : TypeKind) : Json := .string kind.name

end TypeKind

namespace Member

def ofNode? {ν : Type} [DataNode ν] (node : ν) : Option Member := do
  let r ← DataNode.record? ["name", "type", "transient", "synthetic"] node
  return ⟨← r.required? "name" DataNode.text?, ← r.required? "type" TypeDescriptor.ofNode?,
    ← r.withDefault? "transient" false DataNode.flag?,
    ← r.withDefault? "synthetic" false DataNode.flag?⟩

def toJson (m : Member) : Json :=
  .object <|
    [("name", .string m.name), ("type", m.type.toJson)] ++
    Json.flagField "transient" m.transient ++ Json.flagField "synthetic" m.synthetic

end Member

namespace TypeDefinition

def ofNode? {ν : Type} [DataNode ν] (node : ν) : Option TypeDefinition := do
  let r ← DataNode.record? ["name", "kind", "supertypes", "members", "constants"] node
  return ⟨← r.required? "name" DataNode.text?,
    ← r.withDefault? "kind" .concreteClass TypeKind.ofNode?,
    ← r.withDefault? "supertypes" [] (DataNode.listOf? DataNode.text?),
    ← r.withDefault? "members" [] (DataNode.listOf? Member.ofNode?),
    ← r.withDefault? "constants" [] (DataNode.listOf? DataNode.text?)⟩

def toJson (d : TypeDefinition) : Json :=
  .object <|
    [("name", .string d.name), ("kind", d.kind.toJson)] ++
    Json.listField "supertypes" Json.string d.supertypes ++
    Json.listField "members" Member.toJson d.members ++
    Json.listField "constants" Json.string d.constants

end TypeDefinition

namespace TypeCatalog

def ofNode? {ν : Type} [DataNode ν] (node : ν) : Option TypeCatalog :=
  (DataNode.listOf? TypeDefinition.ofNode? node).map ofList

def toJson (c : TypeCatalog) : Json := .array (c.definitions.map TypeDefinition.toJson)

end TypeCatalog

end RestContract
