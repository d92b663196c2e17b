import RestContract.Document.Basic
import RestContract.Schema.Encoding

/-!
Contract documents as JSON, part by part. Absent parts are left out, and the
fields stand in the order of declaration.
-/
namespace RestContract

namespace HttpMethod

def toJson (method : HttpMethod) : Json := .string method.name

def ofJson? (j : Json) : Option HttpMethod := j.choice?.bind ofName?

end HttpMethod

namespace ParameterLocation

def toJson : ParameterLocation → Json
  | query => .string "query"

def ofJson? (j : Json) : Option ParameterLocation :=
  match j.choice? with
  | some "query" => some query
  | _ => none

end ParameterLocation

namespace RestParameter

def toJson (p : RestParameter) : Json :=
  .object <|
    [("name", .string p.name), ("in", p.location.toJson)] ++
    Json.optionalField "required" Json.bool p.required ++
    [("schema", p.schema.toJson)]

def ofJson? (j : Json) : Option RestParameter := do
  let r ← j.record? ["name", "in", "required", "schema"]
  return ⟨← r.required? "name" Json.text?, ← r.required? "in" ParameterLocation.ofJson?,
    ← r.optional? "required" Json.flag?, ← r.required? "schema" SchemaRef.ofJson?⟩

end RestParameter

namespace MediaType

def toJson (m : MediaType) : Json :=
  .object (Json.optionalField "schema" SchemaRef.toJson m.schema)

def ofJson? (j : Json) : Option MediaType := do
  let r ← j.record? ["schema"]
  return ⟨← r.optional? "schema" SchemaRef.ofJson?⟩

end MediaType

namespace RequestBody

def toJson (b : RequestBody) : Json :=
  .object <|
    Json.optionalField "description" Json.string b.description ++
    Json.optionalField "required" Json.bool b.required ++
    [("content", Json.ofMap MediaType.toJson b.content)]

def ofJson? (j : Json) : Option RequestBody := do
  let r ← j.record? ["description", "required", "content"]
  return ⟨← r.optional? "description" Json.text?, ← r.optional? "required" Json.flag?,
    ← r.required? "content" (Json.mapOf? MediaType.ofJson?)⟩

end RequestBody

namespace Response

def toJson (response : Response) : Json :=
  .object <|
    [("description", .string response.description)] ++
    Json.optionalField "content" (Json.ofMap MediaType.toJson) response.content

def ofJson? (j : Json) : Option Response := do
  let r ← j.record? ["description", "content"]
  return ⟨← r.required? "description" Json.text?,
    ← r.optional? "content" (Json.mapOf? MediaType.ofJson?)⟩

end Response

namespace RestOperation

def toJson (o : RestOperation) : Json :=
  .object <|
    Json.optionalField "operationId" Json.string o.operationId ++
    Json.optionalField "tags" Json.ofTexts o.tags ++
    Json.optionalField "summary" Json.string o.summary ++
    Json.optionalField "description" Json.string o.description ++
    Json.optionalField "parameters" (fun ps => .array (ps.map RestParameter.toJson))
      o.parameters ++
    Json.optionalField "requestBody" RequestBody.toJson o.requestBody ++
    [("responses", Json.ofMap Response.toJson o.responses)]

def ofJson? (j : Json) : Option RestOperation := do
  let r ← j.record? ["operationId", "tags", "summary", "description", "parameters",
    "requestBody", "responses"]
  return {
    operationId := ← r.optional? "operationId" Json.text?
    tags := ← r.optional? "tags" (DataNode.listOf? Json.text?)
    summary := ← r.optional? "summary" Json.text?
    description := ← r.optional? "description" Json.text?
    parameters := ← r.optional? "parameters" (DataNode.listOf? RestParameter.ofJson?)
    requestBody := ← r.optional? "requestBody" RequestBody.ofJson?
    responses := ← r.required? "responses" (Json.mapOf? Response.ofJson?) }

end RestOperation

namespace PathItem

def toJson (item : PathItem) : Json :=
  .object <|
    Json.optionalField "get" RestOperation.toJson item.get ++
    Json.optionalField "post" RestOperation.toJson item.post ++
    Json.optionalField "put" RestOperation.toJson item.put ++
    Json.optionalField "delete" RestOperation.toJson item.delete

def ofJson? (j : Json) : Option PathItem := do
  let r ← j.record? ["get", "post", "put", "delete"]
  return ⟨← r.optional? "get" RestOperation.ofJson?, ← r.optional? "post" RestOperation.ofJson?,
    ← r.optional? "put" RestOperation.ofJson?, ← r.optional? "delete" RestOperation.ofJson?⟩

end PathItem

namespace DocumentVersion

def toJson : DocumentVersion → Json
  | v303 => .string "3.0.3"

def ofJson? (j : Json) : Option DocumentVersion :=
  match j.choice? with
  | some "3.0.3" => some v303
  | _ => none

end DocumentVersion

namespace Info

def toJson (info : Info) : Json :=
  .object <|
    [("title", .string info.title), ("version", .string info.version)] ++
    Json.optionalField "description" Json.string info.description

def ofJson? (j : Json) : Option Info := do
  let r ← j.record? ["title", "version", "description"]
  return ⟨← r.required? "title" Json.text?, ← r.required? "version" Json.text?,
    ← r.optional? "description" Json.text?⟩

end Info

namespace Tag

def toJson (tag : Tag) : Json :=
  .object <|
    [("name", .string tag.name)] ++ Json.optionalField "description" Json.string tag.description

def ofJson? (j : Json) : Option Tag := do
  let r ← j.record? ["name", "description"]
  return ⟨← r.required? "name" Json.text?, ← r.optional? "description" Json.text?⟩

end Tag

namespace Components

def toJson (c : Components) : Json :=
  .object (Json.optionalField "schemas" (Json.ofMap Schema.toJson) c.schemas)

def ofJson? (j : Json) : Option Components := do
  let r ← j.record? ["schemas"]
  return ⟨← r.optional? "schemas" (Json.mapOf? Schema.ofJson?)⟩

end Components

namespace Document

def toJson (d : Document) : Json :=
  .object <|
    [("openapi", d.openapi.toJson), ("info", d.info.toJson),
      ("paths", Json.ofMap PathItem.toJson d.paths)] ++
    Json.optionalField "components" Components.toJson d.components ++
    Json.optionalField "tags" (fun tags => .array (tags.map Tag.toJson)) d.tags

def ofJson? (j : Json) : Option Document := do
  let r ← j.record? ["openapi", "info", "paths", "components", "tags"]
  return {
    openapi := ← r.required? "openapi" DocumentVersion.ofJson?
    info := ← r.required? "info" Info.ofJson?
    paths := ← r.required? "paths" (Json.mapOf? PathItem.ofJson?)
    components := ← r.optional? "components" Components.ofJson?
    tags := ← r.optional? "tags" (DataNode.listOf? Tag.ofJson?) }

end Document

end RestContract
