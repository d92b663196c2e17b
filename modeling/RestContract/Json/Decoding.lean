import RestContract.Data.Node
import RestContract.Data.SortedMap
import RestContract.Json.Basic

/-!
JSON as a data format. A record is an object with distinct declared keys, or an
array that lists the values in order of declaration. An alternative without
content is its name, or an object that maps the name to null.
-/
namespace RestContract.Json

def text? : Json → Option String
  | string text => some text
  | _ => none

def flag? : Json → Option Bool
  | bool value => some value
  | _ => none

def items? : Json → Option (List Json)
  | array items => some items
  | _ => none

def choice? : Json → Option String
  | string text => some text
  | object [(name, null)] => some name
  | _ => none

def presence? : Json → Option (Option Json)
  | null => some none
  | value => some (some value)

def record? (names : List String) : Json → Option (Record Json)
  | object fields =>
      if keysDistinct names (fields.map Prod.fst) then some ⟨fields, false⟩ else none
  | array items => if items.length ≤ names.length then some ⟨names.zip items, true⟩ else none
  | _ => none

instance : DataNode Json := ⟨text?, flag?, items?, choice?, presence?, record?⟩

def decodeFields? {α : Type} (decode : Json → Option α) :
    List (String × Json) → Option (List (String × α))
  | [] => some []
  | (key, value) :: rest =>
      match decode value, decodeFields? decode rest with
      | some decoded, some others => some ((key, decoded) :: others)
      | _, _ => none

/-- An object as a map; of a repeated key the last value counts. -/
def mapOf? {α : Type} (decode : Json → Option α) : Json → Option (SortedMap α)
  | object fields => (decodeFields? decode fields).map SortedMap.ofList
  | _ => none

def ofMap {α : Type} (encode : α → Json) (map : SortedMap α) : Json :=
  object (map.entries.map fun (key, value) => (key, encode value))

/-- A field that is left out when its value is absent. -/
def optionalField {α : Type} (name : String) (encode : α → Json) :
    Option α → List (String × Json)
  | some value => [(name, encode value)]
  | none => []

end RestContract.Json
