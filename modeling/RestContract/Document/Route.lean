import RestContract.Schema.Basic
import RestContract.Text.CaseMapping

/-!
The routes of a contract document: methods, parameters, bodies, responses, and
the operations of one path.
-/
namespace RestContract

inductive HttpMethod where
  | get
  | post
  | put
  | delete
  deriving DecidableEq, Repr

namespace HttpMethod

def name : HttpMethod → String
  | get => "GET"
  | post => "POST"
  | put => "PUT"
  | delete => "DELETE"

def ofName? : String → Option HttpMethod
  | "GET" => some get
  | "POST" => some post
  | "PUT" => some put
  | "DELETE" => some delete
  | _ => none

/-- The method of a name in any case; a failure is the name raised to upper case. -/
def parse (text : String) : Except String HttpMethod :=
  match ofName? (Text.upper text) with
  | some method => .ok method
  | none => .error (Text.upper text)

def unsupportedMessage (upperName : String) : String := s!"unsupported HTTP method: {upperName}"

end HttpMethod

inductive ParameterLocation where
  | query
  deriving DecidableEq, Repr

structure RestParameter where
  name : String
  location : ParameterLocation
  required : Option Bool
  schema : SchemaRef

/-- A query parameter that may be left out. -/
def RestParameter.query (name : String) (schema : SchemaRef) : RestParameter :=
  ⟨name, .query, none, schema⟩

structure MediaType where
  schema : Option SchemaRef

def applicationJson : String := "application/json"

/-- Content of the one media type that a contract speaks. -/
def jsonContent (schema : SchemaRef) : SortedMap MediaType :=
  SortedMap.empty.insert applicationJson ⟨some schema⟩

def jsonSchema? (content : SortedMap MediaType) : Option SchemaRef :=
  (content.get? applicationJson).bind MediaType.schema

structure RequestBody where
  description : Option String
  required : Option Bool
  content : SortedMap MediaType

namespace RequestBody

def json (schema : SchemaRef) : RequestBody := ⟨none, some true, RestContract.jsonContent schema⟩

def jsonSchema? (body : RequestBody) : Option SchemaRef := RestContract.jsonSchema? body.content

end RequestBody

structure Response where
  description : String
  content : Option (SortedMap MediaType)

namespace Response

def noContent : Response := ⟨"no content", none⟩

def ok (schema : SchemaRef) : Response := ⟨"OK", some (jsonContent schema)⟩

def jsonSchema? (response : Response) : Option SchemaRef :=
  response.content.bind RestContract.jsonSchema?

end Response

structure RestOperation where
  operationId : Option String
  tags : Option (List String)
  summary : Option String
  description : Option String
  parameters : Option (List RestParameter)
  requestBody : Option RequestBody
  responses : SortedMap Response

/-- The operations of one path, by method. -/
structure PathItem where
  get : Option RestOperation := none
  post : Option RestOperation := none
  put : Option RestOperation := none
  delete : Option RestOperation := none

namespace PathItem

instance : Inhabited PathItem := ⟨{}⟩

def setOperation (item : PathItem) (method : HttpMethod) (operation : RestOperation) : PathItem :=
  match method with
  | .get => { item with get := some operation }
  | .post => { item with post := some operation }
  | .put => { item with put := some operation }
  | .delete => { item with delete := some operation }

def getOperation? (item : PathItem) : HttpMethod → Option RestOperation
  | .get => item.get
  | .post => item.post
  | .put => item.put
  | .delete => item.delete

end PathItem

end RestContract
