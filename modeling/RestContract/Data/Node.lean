/-!
The questions that a decoder asks of a node, whatever the data format. Each
format answers in its own way: what counts as text, which nodes stand for an
absent value, how a record is written. A decoder built from these answers serves
every format.
-/
namespace RestContract

/-- The fields of a record by name. They are positional if the record was written
as a plain list of values in the order of declaration. -/
structure Record (ν : Type) where
  fields : List (String × ν)
  positional : Bool

class DataNode (ν : Type) where
  text? : ν → Option String
  flag? : ν → Option Bool
  items? : ν → Option (List ν)
  /-- The name of an alternative without content. -/
  choice? : ν → Option String
  /-- A node in an optional place: absent, present, or not acceptable there. -/
  presence? : ν → Option (Option ν)
  /-- The fields of a record whose declared names are given. -/
  record? : List String → ν → Option (Record ν)

/-- No declared name occurs twice among the keys. -/
def keysDistinct (names : List String) (keys : List String) : Bool :=
  names.all fun name => (keys.filter (· == name)).length ≤ 1

namespace DataNode

variable {ν α : Type} [DataNode ν]

def listOf? (decode : ν → Option α) (node : ν) : Option (List α) :=
  match items? node with
  | some items => items.mapM decode
  | none => none

def optional? (decode : ν → Option α) (node : ν) : Option (Option α) :=
  match presence? node with
  | none => none
  | some none => some none
  | some (some inner) => (decode inner).map some

end DataNode

namespace Record

variable {ν α : Type} [DataNode ν]

def get? (r : Record ν) (name : String) : Option ν := r.fields.lookup name

/-- A field that must be given. -/
def required? (r : Record ν) (name : String) (decode : ν → Option α) : Option α :=
  match r.get? name with
  | some node => decode node
  | none => none

/-- A field that takes `value` when it is not given. -/
def withDefault? (r : Record ν) (name : String) (value : α) (decode : ν → Option α) : Option α :=
  match r.get? name with
  | some node => decode node
  | none => some value

/-- A field that may be absent; in a positional record it still needs its place. -/
def optional? (r : Record ν) (name : String) (decode : ν → Option α) : Option (Option α) :=
  match r.get? name with
  | some node => DataNode.optional? decode node
  | none => if r.positional then none else some none

/-- A field that may be absent, also at the end of a positional record. -/
def trailing? (r : Record ν) (name : String) (decode : ν → Option α) : Option (Option α) :=
  r.withDefault? name none (DataNode.optional? decode)

end Record

end RestContract
