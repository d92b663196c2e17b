import RestContract.Data.SortedMap

/-!
Schemas, restricted to the keywords that a contract uses. A schema position holds
either a reference to a schema kept elsewhere or a schema written in place.
-/
namespace RestContract

inductive SchemaType where
  | string
  | number
  | integer
  | boolean
  | array
  | object
  deriving DecidableEq, Repr

/-- The property that tells the alternatives of a polymorphic schema apart. -/
structure Discriminator where
  propertyName : String
  deriving DecidableEq, Repr

mutual

inductive SchemaRef where
  | reference (path : String)
  | inline (schema : Schema)

structure Schema where
  type : Option SchemaType := none
  format : Option String := none
  description : Option String := none
  items : Option SchemaRef := none
  uniqueItems : Option Bool := none
  properties : Option (SortedMap SchemaRef) := none
  required : Option (List String) := none
  additionalProperties : Option SchemaRef := none
  constants : Option (List String) := none
  allOf : Option (List SchemaRef) := none
  oneOf : Option (List SchemaRef) := none
  discriminator : Option Discriminator := none

end

/-- What the path of every reference to a component starts with. -/
def componentPath : String := "#/components/schemas/"

/-- What follows `start` in a text that begins with it. -/
def textAfter? (start : String) (text : String) : Option String :=
  if start.toList.isPrefixOf text.toList then
    some (String.ofList (text.toList.drop start.length))
  else none

namespace SchemaRef

instance : Inhabited SchemaRef := ⟨reference ""⟩

/-- The reference to the component of a name. -/
def component (name : String) : SchemaRef := reference (componentPath ++ name)

def componentName? : SchemaRef → Option String
  | reference path => textAfter? componentPath path
  | inline _ => none

def isReference : SchemaRef → Bool
  | reference _ => true
  | inline _ => false

def asInline? : SchemaRef → Option Schema
  | reference _ => none
  | inline schema => some schema

end SchemaRef

namespace Schema

instance : Inhabited Schema := ⟨{}⟩

def ofType (type : SchemaType) : Schema := { type := some type }

def string : Schema := ofType .string

def integer : Schema := ofType .integer

def number : Schema := ofType .number

def boolean : Schema := ofType .boolean

def array (items : SchemaRef) : Schema := { type := some .array, items := some items }

/-- An object with an empty property map. -/
def object : Schema := { type := some .object, properties := some .empty }

/-- An open object whose values all follow one schema. -/
def mapOf (values : SchemaRef) : Schema :=
  { type := some .object, additionalProperties := some values }

def withFormat (s : Schema) (format : String) : Schema := { s with format := some format }

def withDescription (s : Schema) (description : String) : Schema :=
  { s with description := some description }

/-- Add a property, in place of one of the same name. -/
def insertProperty (s : Schema) (name : String) (property : SchemaRef) : Schema :=
  { s with properties := some ((s.properties.getD .empty).insert name property) }

/-- Mark a property as required, once. -/
def require (s : Schema) (name : String) : Schema :=
  let names := s.required.getD []
  { s with required := some (if names.contains name then names else names ++ [name]) }

def propertyCount (s : Schema) : Nat :=
  match s.properties with
  | some properties => properties.size
  | none => 0

/-- An object that is not composed of alternatives. -/
def isPlainObject (s : Schema) : Bool := s.type == some .object && s.oneOf.isNone

end Schema

end RestContract
