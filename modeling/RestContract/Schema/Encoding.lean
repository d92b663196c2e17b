import RestContract.Json.Decoding
import RestContract.Schema.Basic

/-!
Schemas as JSON. Absent parts are left out. A position is read as a reference if
it carries a textual `$ref`, whatever else it carries, and as a schema otherwise.
-/
namespace RestContract

namespace SchemaType

def name : SchemaType → String
  | string => "string"
  | number => "number"
  | integer => "integer"
  | boolean => "boolean"
  | array => "array"
  | object => "object"

def ofName? : String → Option SchemaType
  | "string" => some string
  | "number" => some number
  | "integer" => some integer
  | "boolean" => some boolean
  | "array" => some array
  | "object" => some object
  | _ => none

def toJson (t : SchemaType) : Json := .string t.name

def ofJson? (j : Json) : Option SchemaType := j.choice?.bind ofName?

end SchemaType

namespace Discriminator

def toJson (d : Discriminator) : Json := .object [("propertyName", .string d.propertyName)]

def ofJson? (j : Json) : Option Discriminator := do
  let r ← j.record? ["propertyName"]
  return ⟨← r.required? "propertyName" Json.text?⟩

end Discriminator

def referenceToJson (path : String) : Json := .object [("$ref", .string path)]

def referenceOfJson? (j : Json) : Option String := do
  let r ← j.record? ["$ref"]
  r.required? "$ref" Json.text?

mutual

def SchemaRef.toJson : SchemaRef → Json
  | .reference path => referenceToJson path
  | .inline schema => schema.toJson

def Schema.toJson : Schema → Json
  | ⟨type, format, description, items, uniqueItems, properties, required, additionalProperties,
      constants, allOf, oneOf, discriminator⟩ =>
      .object <|
        Json.optionalField "type" SchemaType.toJson type ++
        Json.optionalField "format" Json.string format ++
        Json.optionalField "description" Json.string description ++
        positionField "items" items ++
        Json.optionalField "uniqueItems" Json.bool uniqueItems ++
        propertiesField "properties" properties ++
        Json.optionalField "required" Json.ofTexts required ++
        positionField "additionalProperties" additionalProperties ++
        Json.optionalField "enum" Json.ofTexts constants ++
        positionsField "allOf" allOf ++
        positionsField "oneOf" oneOf ++
        Json.optionalField "discriminator" Discriminator.toJson discriminator

def positionField (name : String) : Option SchemaRef → List (String × Json)
  | none => []
  | some position => [(name, position.toJson)]

def positionsField (name : String) : Option (List SchemaRef) → List (String × Json)
  | none => []
  | some positions => [(name, .array (positionsToJson positions))]

def positionsToJson : List SchemaRef → List Json
  | [] => []
  | position :: rest => position.toJson :: positionsToJson rest

def propertiesField (name : String) : Option (SortedMap SchemaRef) → List (String × Json)
  | none => []
  | some ⟨entries⟩ => [(name, .object (propertiesToJson entries))]

def propertiesToJson : List (String × SchemaRef) → List (String × Json)
  | [] => []
  | (name, position) :: rest => (name, position.toJson) :: propertiesToJson rest

end

def Schema.fieldNames : List String :=
  ["type", "format", "description", "items", "uniqueItems", "properties", "required",
    "additionalProperties", "enum", "allOf", "oneOf", "discriminator"]

mutual

/-- Read a position of at most so many levels. -/
def SchemaRef.ofJsonWithin? : Nat → Json → Option SchemaRef
  | 0, _ => none
  | levels + 1, j =>
      match referenceOfJson? j with
      | some path => some (.reference path)
      | none => (Schema.ofJsonWithin? levels j).map .inline

def Schema.ofJsonWithin? : Nat → Json → Option Schema
  | 0, _ => none
  | levels + 1, j => do
      let r ← j.record? Schema.fieldNames
      return {
        type := ← r.optional? "type" SchemaType.ofJson?
        format := ← r.optional? "format" Json.text?
        description := ← r.optional? "description" Json.text?
        items := ← r.optional? "items" (SchemaRef.ofJsonWithin? levels)
        uniqueItems := ← r.optional? "uniqueItems" Json.flag?
        properties := ← r.optional? "properties" (Json.mapOf? (SchemaRef.ofJsonWithin? levels))
        required := ← r.optional? "required" (DataNode.listOf? Json.text?)
        additionalProperties :=
          ← r.optional? "additionalProperties" (SchemaRef.ofJsonWithin? levels)
        constants := ← r.optional? "enum" (DataNode.listOf? Json.text?)
        allOf := ← r.optional? "allOf" (DataNode.listOf? (SchemaRef.ofJsonWithin? levels))
        oneOf := ← r.optional? "oneOf" (DataNode.listOf? (SchemaRef.ofJsonWithin? levels))
        discriminator := ← r.optional? "discriminator" Discriminator.ofJson? }

end

/-- A position takes one step to enter and one to be read as a schema, so twice the
height of the value is enough. -/
def SchemaRef.ofJson? (j : Json) : Option SchemaRef := SchemaRef.ofJsonWithin? (2 * j.height) j

def Schema.ofJson? (j : Json) : Option Schema := Schema.ofJsonWithin? (2 * j.height) j

end RestContract
