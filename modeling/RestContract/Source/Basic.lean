import RestContract.Source.Catalog

/-!
Contract sources: the interfaces to compile and the types they mention. An
operation may carry routing metadata, each part of which overrides a default.
-/
namespace RestContract

structure RouteMetadata where
  path : Option String := none
  method : Option String := none
  tag : Option String := none
  description : Option String := none
  deriving DecidableEq, Repr

structure Parameter where
  name : String
  type : TypeDescriptor
  deriving DecidableEq

structure Operation where
  name : String
  parameters : List Parameter := []
  returns : TypeDescriptor := .void
  route : Option RouteMetadata := none
  deriving DecidableEq

structure Interface where
  name : String
  operations : List Operation := []
  deriving DecidableEq

namespace Interface

def simpleName (i : Interface) : String := Naming.simpleName i.name

/-- The name, qualified or simple, designates the interface. -/
def isNamed (i : Interface) (name : String) : Bool := i.name == name || i.simpleName == name

end Interface

structure ContractSource where
  interfaces : List Interface := []
  types : TypeCatalog := .empty
  deriving DecidableEq

/-! Reading and writing contract sources. -/

namespace RouteMetadata

def ofNode? {ν : Type} [DataNode ν] (node : ν) : Option RouteMetadata := do
  let r ← DataNode.record? ["path", "method", "tag", "description"] node
  return ⟨← r.trailing? "path" DataNode.text?, ← r.trailing? "method" DataNode.text?,
    ← r.trailing? "tag" DataNode.text?, ← r.trailing? "description" DataNode.text?⟩

def toJson (route : RouteMetadata) : Json :=
  .object <|
    Json.optionalField "path" Json.string route.path ++
    Json.optionalField "method" Json.string route.method ++
    Json.optionalField "tag" Json.string route.tag ++
    Json.optionalField "description" Json.string route.description

end RouteMetadata

namespace Parameter

def ofNode? {ν : Type} [DataNode ν] (node : ν) : Option Parameter := do
  let r ← DataNode.record? ["name", "type"] node
  return ⟨← r.required? "name" DataNode.text?, ← r.required? "type" TypeDescriptor.ofNode?⟩

def toJson (p : Parameter) : Json :=
  .object [("name", .string p.name), ("type", p.type.toJson)]

end Parameter

namespace Operation

def ofNode? {ν : Type} [DataNode ν] (node : ν) : Option Operation := do
  let r ← DataNode.record? ["name", "parameters", "returns", "route"] node
  return ⟨← r.required? "name" DataNode.text?,
    ← r.withDefault? "parameters" [] (DataNode.listOf? Parameter.ofNode?),
    ← r.withDefault? "returns" .void TypeDescriptor.ofNode?,
    ← r.trailing? "route" RouteMetadata.ofNode?⟩

def toJson (o : Operation) : Json :=
  .object <|
    [("name", .string o.name)] ++
    Json.listField "parameters" Parameter.toJson o.parameters ++
    [("returns", o.returns.toJson)] ++
    Json.optionalField "route" RouteMetadata.toJson o.route

end Operation

namespace Interface

def ofNode? {ν : Type} [DataNode ν] (node : ν) : Option Interface := do
  let r ← DataNode.record? ["name", "operations"] node
  return ⟨← r.required? "name" DataNode.text?,
    ← r.withDefault? "operations" [] (DataNode.listOf? Operation.ofNode?)⟩

def toJson (i : Interface) : Json :=
  .object [("name", .string i.name), ("operations", .array (i.operations.map Operation.toJson))]

end Interface

namespace ContractSource

def ofNode? {ν : Type} [DataNode ν] (node : ν) : Option ContractSource := do
  let r ← DataNode.record? ["interfaces", "types"] node
  return ⟨← r.withDefault? "interfaces" [] (DataNode.listOf? Interface.ofNode?),
    ← r.withDefault? "types" .empty TypeCatalog.ofNode?⟩

def toJson (source : ContractSource) : Json :=
  .object [("interfaces", .array (source.interfaces.map Interface.toJson)),
    ("types", source.types.toJson)]

end ContractSource

end RestContract
