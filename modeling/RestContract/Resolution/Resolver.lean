import RestContract.Resolution.Container
import RestContract.Resolution.Descendants
import RestContract.Resolution.Scalar
import RestContract.Text.Quoted

/-!
Resolution of types to schema positions. Scalars are written in place, containers
wrap what they contain, and declared types become components that are referred to
by name. A name is claimed before its schema is built, so recursive types end in a
reference; nesting deeper than a limit ends in a plain object.

The recursion is open: a resolver says how the types one level down are resolved,
and a step turns it into a resolver for the level above. Each level goes one deeper.
Below the limit that alone bounds the levels, and beyond it only chains of subtypes
go on, each link of which claims another declared type; so a number of levels known
from the catalog is enough.
-/
namespace RestContract

/-- How types are resolved at a given depth: any type, or a subtype of a base. -/
structure Resolver where
  resolve : TypeDescriptor → Nat → Resolving SchemaRef
  subtype : String → Nat → Resolving SchemaRef

/-- Types nested deeper than this resolve to a plain object. -/
def maxDepth : Nat := 32

/-- An object about which nothing is said. -/
def freeForm : SchemaRef := .inline (.ofType .object)

def typeName (t : TypeDescriptor) : List (String × LogValue) := [("type_name", .text t.qualified)]

namespace Resolver

open Resolving

/-- The schema of a collection, from that of its items. -/
def collectionSchema (family : ContainerFamily) (items : SchemaRef) : SchemaRef :=
  match family with
  | .set => .inline { Schema.array items with uniqueItems := some true }
  | _ => .inline (Schema.array items)

def collection (r : Resolver) (t : TypeDescriptor) (family : ContainerFamily) (depth : Nat) :
    Resolving SchemaRef :=
  match t.arguments with
  | element :: _ => do
      let items ← r.resolve element (depth + 1)
      return collectionSchema family items
  | [] => do
      note .warn "collection without element type, resolving items as object" (typeName t)
      return collectionSchema family freeForm

def compositeMapName (depth : Nat) : String := s!"CompositeMapResponse{depth}"

/-- The component of a map whose keys are not texts: its keys and its values as two
lists side by side. -/
def compositeMapSchema (key value : TypeDescriptor) (keys values : SchemaRef) : Schema :=
  let described :=
    Schema.object.withDescription s!"wrapper for Map [{key.display}, {value.display}]"
  (described.insertProperty "first" (.inline (.array keys))).insertProperty "last"
    (.inline (.array values))

def map (r : Resolver) (t : TypeDescriptor) (depth : Nat) : Resolving SchemaRef :=
  match t.arguments with
  | [key, value] =>
      if isText key then do
        let values ← r.resolve value (depth + 1)
        return .inline (.mapOf values)
      else
        construct (compositeMapName depth) (.synthetic s!"map {t.qualified}") do
          let keys ← r.resolve key (depth + 1)
          let values ← r.resolve value (depth + 1)
          return compositeMapSchema key value keys values
  | _ => do
      note .warn "map without key and value types, resolving values as object" (typeName t)
      return .inline (.mapOf freeForm)

/-- Add a property for each of the members to a schema. -/
def addMembers (r : Resolver) (depth : Nat) : List Member → Schema → Resolving Schema
  | [], schema => return schema
  | m :: rest, schema => do
      let property ← r.resolve m.type (depth + 1)
      addMembers r depth rest (schema.insertProperty m.name property)

/-- The object of the serialized members of a type. -/
def memberObject (r : Resolver) (d : TypeDefinition) (depth : Nat) : Resolving Schema :=
  r.addMembers depth d.serializedMembers Schema.object

def subtypes (r : Resolver) (depth : Nat) : List String → Resolving (List SchemaRef)
  | [] => return []
  | name :: rest => do
      let first ← r.subtype name (depth + 1)
      let others ← subtypes r depth rest
      return first :: others

def attachAll (property : String) (inherited : Option Schema) (direct : List String) :
    List String → Resolving Unit
  | [] => return ()
  | name :: rest => do
      attach ⟨.type name, property, inherited, direct.contains name⟩
      attachAll property inherited direct rest

/-- What the descendants of a base inherit: the object of its members, if it has any. -/
def inherited (r : Resolver) (d : TypeDefinition) (depth : Nat) : Resolving (Option Schema) :=
  if d.serializedMembers.isEmpty then return none else some <$> r.memberObject d depth

/-- Hand the discriminator and the members of a concrete base down to its
descendants. -/
def handDown (r : Resolver) (catalog : TypeCatalog) (d : TypeDefinition) (direct : List String)
    (depth : Nat) : Resolving Unit := do
  let inherited ← r.inherited d depth
  let below ← descendants catalog d.name direct
  attachAll (Naming.discriminatorProperty d.simpleName) inherited direct below

/-- The component of a type with subtypes: one of its alternatives. -/
def polymorphicSchema (d : TypeDefinition) (alternatives : List SchemaRef) : Schema :=
  { description := some d.name
    oneOf := some alternatives
    discriminator :=
      if d.isInterface then none else some ⟨Naming.discriminatorProperty d.simpleName⟩ }

def polymorphic (r : Resolver) (catalog : TypeCatalog) (d : TypeDefinition) (direct : List String)
    (depth : Nat) : Resolving Schema := do
  note .debug "resolving polymorphic type"
    [("base", .text d.name), ("subtypes", .text (Text.quotedList direct)),
      ("interface", .flag d.isInterface)]
  let alternatives ← r.subtypes depth direct
  if !d.isInterface then r.handDown catalog d direct depth
  return polymorphicSchema d alternatives

/-- The schema of a declared type under a name just claimed for it. -/
def component (r : Resolver) (catalog : TypeCatalog) (d : TypeDefinition) (depth : Nat) :
    Resolving Schema := do
  match ← subtypesOf catalog d.name with
  | [] => return (← r.memberObject d depth).withDescription d.name
  | direct => r.polymorphic catalog d direct depth

/-- An enumeration, written in place. -/
def enumSchema (d : TypeDefinition) : Schema :=
  { Schema.string with constants := some d.constants }

def declared (r : Resolver) (catalog : TypeCatalog) (d : TypeDefinition) (depth : Nat) :
    Resolving SchemaRef :=
  if d.isEnum then return .inline (enumSchema d)
  else construct d.simpleName (.type d.name) (r.component catalog d depth)

/-- A type that the catalog does not know is an object without properties. -/
def undeclared (t : TypeDescriptor) : Resolving SchemaRef :=
  construct t.simpleName (.type t.name) do
    note .warn "type not found in the type index, registering an empty object"
      [("type_name", .text t.name)]
    return Schema.object.withDescription t.name

def named (r : Resolver) (catalog : TypeCatalog) (t : TypeDescriptor) (depth : Nat) :
    Resolving SchemaRef :=
  match catalog.lookup? t.name with
  | none => undeclared t
  | some d => do
      if !t.arguments.isEmpty then
        note .warn "type arguments of a declared type are ignored" (typeName t)
      r.declared catalog d depth

def optional (r : Resolver) (t : TypeDescriptor) (depth : Nat) : Resolving SchemaRef :=
  match t.arguments with
  | [inner] => r.resolve inner (depth + 1)
  | _ => do
      note .warn "optional without a single type argument, resolving as plain object" (typeName t)
      return freeForm

/-- A type that is no scalar. -/
def composite (r : Resolver) (catalog : TypeCatalog) (t : TypeDescriptor) (depth : Nat) :
    Resolving SchemaRef :=
  if isAnyObject t then return freeForm
  else if isOptional t then r.optional t depth
  else
    match ContainerFamily.of? t with
    | some .map => r.map t depth
    | some family => r.collection t family depth
    | none => r.named catalog t depth

def any (r : Resolver) (catalog : TypeCatalog) (t : TypeDescriptor) (depth : Nat) :
    Resolving SchemaRef :=
  if maxDepth < depth then do
    note .warn "type nesting too deep, resolving as plain object"
      [("type_name", .text t.qualified), ("depth", .count depth)]
    return freeForm
  else
    match classify t with
    | .scalar schema => return .inline schema
    | .void => do
        note .debug "void in a value position, resolving as plain object"
          [("depth", .count depth)]
        return freeForm
    | .composite => r.composite catalog t depth

/-- The resolver of the level above. -/
def step (catalog : TypeCatalog) (r : Resolver) : Resolver :=
  ⟨r.any catalog, fun name depth => r.named catalog (.ofName name) depth⟩

/-- The resolver with no level left. -/
def exhausted : Resolver := ⟨fun _ _ => return freeForm, fun _ _ => return freeForm⟩

def ofLevels (catalog : TypeCatalog) : Nat → Resolver
  | 0 => exhausted
  | levels + 1 => (ofLevels catalog levels).step catalog

/-- Enough levels for every type: the depths up to the limit, one level that meets
the limit, and one for each declared type. -/
def full (catalog : TypeCatalog) : Resolver := ofLevels catalog (maxDepth + 1 + catalog.size)

end Resolver

/-- Resolve a type where a resolution starts. -/
def resolveRoot (catalog : TypeCatalog) (t : TypeDescriptor) : Resolving SchemaRef :=
  (Resolver.full catalog).resolve t 1

end RestContract
