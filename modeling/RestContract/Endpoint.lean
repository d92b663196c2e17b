import RestContract.Document.Basic
import RestContract.Resolution.Resolver
import RestContract.Source.Basic

/-!
Endpoints: what one operation of an interface becomes. The route is decided from
names and routing metadata alone. Then the return type and the parameters are
resolved; the parameters go all into the query or all into the body, and several
body parameters are bundled in a wrapper schema.
-/
namespace RestContract

structure EndpointRoute where
  path : String
  method : HttpMethod
  operationId : String
  tag : String
  description : String
  deriving DecidableEq, Repr

/-- The container of a return type; `none` is no content at all. -/
inductive ResponseShape where
  | none
  | single
  | sequence
  | set
  | map
  deriving DecidableEq, Repr

structure BodyParameter where
  name : String
  schema : SchemaRef
  origin : TypeDescriptor

structure Endpoint where
  route : EndpointRoute
  query : List (String × SchemaRef)
  body : List BodyParameter
  requestBody : Option SchemaRef
  response : Option SchemaRef
  responseShape : ResponseShape

namespace EndpointRoute

open Resolving

/-- The method that metadata asks for, or the default. -/
def method? (operation : Operation) : Option String → Except CompileError HttpMethod
  | none => .ok .post
  | some text =>
      match HttpMethod.parse text with
      | .ok method => .ok method
      | .error _ => .error (.unsupportedMethod operation.name text)

def defaultPath (interface : Interface) (operation : Operation) : String :=
  s!"/{interface.simpleName}/{operation.name}"

/-- The route of an operation, from its defaults and the metadata over them. -/
def of? (interface : Interface) (operation : Operation) : Except CompileError EndpointRoute :=
  let metadata := operation.route.getD {}
  match method? operation metadata.method with
  | .error e => .error e
  | .ok method =>
      let operationId := Naming.kebabCase operation.name
      .ok {
        path := metadata.path.getD (defaultPath interface operation)
        method
        operationId
        tag := metadata.tag.getD interface.simpleName
        description := metadata.description.getD operationId }

def decide (interface : Interface) (operation : Operation) : Resolving EndpointRoute := do
  if operation.route.isNone then
    note .debug "no routing metadata, using defaults" [("operation", .text operation.name)]
  match of? interface operation with
  | .ok route => return route
  | .error e => throw e

end EndpointRoute

namespace Endpoint

open Resolving

def shapeOf (returns : TypeDescriptor) : ResponseShape :=
  match ContainerFamily.of? (stripOptional returns) with
  | some .sequence => .sequence
  | some .set => .set
  | some .map => .map
  | none => .single

def resolveResponse (catalog : TypeCatalog) (operation : Operation) :
    Resolving (Option SchemaRef × ResponseShape) := do
  if operation.returns.isVoid then return (none, .none)
  else
    let shape := shapeOf operation.returns
    if shape == .map then
      note .warn "map return types are resolved best-effort"
        [("operation", .text operation.name), ("type_name", .text operation.returns.display)]
    let schema ← resolveRoot catalog operation.returns
    return (some schema, shape)

def isMapParameter (p : Parameter) : Bool :=
  ContainerFamily.of? (stripOptional p.type) == some .map

def isCollectionParameter (p : Parameter) : Bool :=
  match ContainerFamily.of? (stripOptional p.type) with
  | some family => family.isCollection
  | none => false

/-- A parameter with the schema its type resolved to. -/
structure Placed where
  parameter : Parameter
  schema : SchemaRef

/-- References and collections need a body. -/
def Placed.needsBody (p : Placed) : Bool :=
  p.schema.isReference || isCollectionParameter p.parameter

/-- Resolve the parameters in order. A map parameter fails the operation, or, if the
compilation is not strict, is left out. -/
def place (catalog : TypeCatalog) (operation : Operation) (strict : Bool) :
    List Parameter → Resolving (List Placed)
  | [] => return []
  | p :: rest => do
      if isMapParameter p then
        let e := CompileError.unsupportedMapParameter operation.name p.name p.type.display
        if strict then throw e
        note .warn "skipping parameter" [("error", .text e.message)]
        place catalog operation strict rest
      else
        let schema ← resolveRoot catalog p.type
        let others ← place catalog operation strict rest
        return ⟨p, schema⟩ :: others

def wrapperSignature (interface : Interface) (operation : Operation) (body : List BodyParameter) :
    String :=
  let types := ", ".intercalate (body.map fun p => p.origin.qualified)
  s!"request {interface.name}.{operation.name}({types})"

def wrapperName (operation : Operation) : String := Naming.pascalCase operation.name ++ "Request"

def wrapperSchema (body : List BodyParameter) : Schema :=
  let types := ", ".intercalate (body.map fun p => p.origin.display)
  body.foldl (fun schema p => schema.insertProperty p.name p.schema)
    (Schema.object.withDescription s!"Wrapper for [{types}]")

/-- The component that bundles several body parameters. -/
def wrapper (interface : Interface) (operation : Operation) (body : List BodyParameter) :
    Resolving SchemaRef :=
  construct (wrapperName operation) (.synthetic (wrapperSignature interface operation body))
    (return wrapperSchema body)

/-- The schema of the request body: that of a single parameter, or a wrapper. -/
def bundle (interface : Interface) (operation : Operation) :
    List BodyParameter → Resolving (Option SchemaRef)
  | [] => return none
  | [single] => return some single.schema
  | body => some <$> wrapper interface operation body

def bodyOf (placed : List Placed) : List BodyParameter :=
  placed.map fun p => ⟨p.parameter.name, p.schema, p.parameter.type⟩

def queryOf (placed : List Placed) : List (String × SchemaRef) :=
  placed.map fun p => (p.parameter.name, p.schema)

/-- Assemble the endpoint of an operation whose route is decided. -/
def assemble (catalog : TypeCatalog) (interface : Interface) (operation : Operation)
    (strict : Bool) (route : EndpointRoute) : Resolving Endpoint := do
  let (response, shape) ← resolveResponse catalog operation
  let placed ← place catalog operation strict operation.parameters
  let inBody := placed.any Placed.needsBody
  let body := if inBody then bodyOf placed else []
  let query := if inBody then [] else queryOf placed
  let requestBody ← bundle interface operation body
  return ⟨route, query, body, requestBody, response, shape⟩

/-- Decide the route of an operation and assemble its endpoint there. -/
def ofOperation (catalog : TypeCatalog) (interface : Interface) (operation : Operation)
    (strict : Bool) : Resolving Endpoint := do
  let route ← EndpointRoute.decide interface operation
  assemble catalog interface operation strict route

def responses (e : Endpoint) : SortedMap Response :=
  match e.response with
  | some schema => SortedMap.empty.insert "200" (.ok schema)
  | none => SortedMap.empty.insert "default" .noContent

def queryParameters (e : Endpoint) : Option (List RestParameter) :=
  if e.query.isEmpty then none
  else some (e.query.map fun (name, schema) => .query name schema)

def toOperation (e : Endpoint) : RestOperation where
  operationId := some e.route.operationId
  tags := some [e.route.tag]
  summary := some e.route.operationId
  description := some e.route.description
  parameters := e.queryParameters
  requestBody := e.requestBody.map .json
  responses := e.responses

end Endpoint

end RestContract
