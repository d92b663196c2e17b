import RestContract.Document.Encoding
import RestContract.Proofs.SchemaReading

/-!
Contract documents written as JSON and read again. Each part of a document is a record of
optional and required fields, and reading finds in each field what was written there: an
absent field stays absent, an empty list or map stays empty. The only thing that reading
decides anew is the order of the entries of a map, so a document is read again exactly if its
maps have their names in order at every level.
-/
namespace RestContract

def RestParameter.Ordered (p : RestParameter) : Prop := p.schema.Ordered

def MediaType.Ordered (m : MediaType) : Prop := ∀ ref ∈ m.schema, ref.Ordered

def RequestBody.Ordered (b : RequestBody) : Prop := b.content.Ordered MediaType.Ordered

def Response.Ordered (r : Response) : Prop :=
  ∀ content ∈ r.content, content.Ordered MediaType.Ordered

structure RestOperation.Ordered (o : RestOperation) : Prop where
  parameters : ∀ parameters ∈ o.parameters, ∀ p ∈ parameters, p.Ordered
  requestBody : ∀ body ∈ o.requestBody, body.Ordered
  responses : o.responses.Ordered Response.Ordered

def PathItem.Ordered (item : PathItem) : Prop :=
  ∀ method, ∀ operation ∈ item.getOperation? method, operation.Ordered

def Components.Ordered (c : Components) : Prop :=
  ∀ schemas ∈ c.schemas, schemas.Ordered Schema.Ordered

structure Document.Ordered (d : Document) : Prop where
  paths : d.paths.Ordered PathItem.Ordered
  components : ∀ components ∈ d.components, components.Ordered

open Json

theorem ParameterLocation.ofJson?_toJson (location : ParameterLocation) :
    ofJson? location.toJson = some location := by
  cases location
  rfl

theorem DocumentVersion.ofJson?_toJson (version : DocumentVersion) :
    ofJson? version.toJson = some version := by
  cases version
  rfl

theorem Info.ofJson?_toJson (info : Info) : ofJson? info.toJson = some info := by
  obtain ⟨title, version, description⟩ := info
  cases description <;> rfl

theorem Tag.ofJson?_toJson (tag : Tag) : ofJson? tag.toJson = some tag := by
  obtain ⟨name, description⟩ := tag
  cases description <;> rfl

namespace MediaType

theorem ofJson?_toJson {m : MediaType} (h : m.Ordered) : ofJson? m.toJson = some m := by
  let places := [("schema", m.schema.map SchemaRef.toJson)]
  have hplaces : (places.map Prod.fst).Nodup := by simp [places]
  have hjson : m.toJson = .object (fieldsOf places) := by
    simp only [places, toJson, fieldsOf_cons_map, fieldsOf, List.append_nil]
  have hschema : (recordOf places).optional? "schema" SchemaRef.ofJson? = some m.schema :=
    Record.optional?_recordOf hplaces rfl rfl fun ref href => SchemaRef.ofJson?_toJson (h ref href)
  rw [hjson, ofJson?, record?_fieldsOf hplaces]
  simp [hschema]

theorem ordered_of_ofJson? (j : Json) (m : MediaType) (h : ofJson? j = some m) : m.Ordered := by
  simp only [ofJson?, Option.bind_eq_bind, Option.bind_eq_some_iff] at h
  obtain ⟨r, -, schema, hschema, heq⟩ := h
  cases heq
  exact Record.of_optional? SchemaRef.ordered_of_ofJson? hschema

end MediaType

/-- Media types by name. -/
theorem contentOfJson?_toJson {content : SortedMap MediaType}
    (h : content.Ordered MediaType.Ordered) :
    mapOf? MediaType.ofJson? (ofMap MediaType.toJson content) = some content :=
  mapOf?_ofMap (h.imp fun _ => MediaType.ofJson?_toJson)

theorem ordered_of_contentOfJson? (j : Json) (content : SortedMap MediaType)
    (h : mapOf? MediaType.ofJson? j = some content) : content.Ordered MediaType.Ordered :=
  ordered_of_mapOf? MediaType.ordered_of_ofJson? h

namespace RestParameter

theorem ofJson?_toJson {p : RestParameter} (h : p.Ordered) : ofJson? p.toJson = some p := by
  let places := [("name", some (.string p.name)), ("in", some p.location.toJson),
    ("required", p.required.map .bool), ("schema", some p.schema.toJson)]
  have hplaces : (places.map Prod.fst).Nodup := by simp [places]
  have hjson : p.toJson = .object (fieldsOf places) := by
    simp only [places, toJson, fieldsOf_cons_map, fieldsOf, List.cons_append, List.nil_append]
  have hname : (recordOf places).required? "name" Json.text? = some p.name :=
    Record.required?_recordOf hplaces rfl rfl
  have hlocation : (recordOf places).required? "in" ParameterLocation.ofJson? = some p.location :=
    Record.required?_recordOf hplaces rfl p.location.ofJson?_toJson
  have hrequired : (recordOf places).optional? "required" Json.flag? = some p.required :=
    Record.optional?_recordOf hplaces rfl rfl fun _ _ => rfl
  have hschema : (recordOf places).required? "schema" SchemaRef.ofJson? = some p.schema :=
    Record.required?_recordOf hplaces rfl (SchemaRef.ofJson?_toJson h)
  rw [hjson, ofJson?, record?_fieldsOf hplaces]
  simp [hname, hlocation, hrequired, hschema]

theorem ordered_of_ofJson? (j : Json) (p : RestParameter) (h : ofJson? j = some p) :
    p.Ordered := by
  simp only [ofJson?, Option.bind_eq_bind, Option.bind_eq_some_iff] at h
  obtain ⟨r, -, name, -, location, -, required, -, schema, hschema, heq⟩ := h
  cases heq
  show schema.Ordered
  exact Record.of_required? SchemaRef.ordered_of_ofJson? hschema

end RestParameter

namespace RequestBody

theorem ofJson?_toJson {b : RequestBody} (h : b.Ordered) : ofJson? b.toJson = some b := by
  let places := [("description", b.description.map .string), ("required", b.required.map .bool),
    ("content", some (ofMap MediaType.toJson b.content))]
  have hplaces : (places.map Prod.fst).Nodup := by simp [places]
  have hjson : b.toJson = .object (fieldsOf places) := by
    simp only [places, toJson, fieldsOf_cons_map, fieldsOf, List.append_assoc]
  have hdescription : (recordOf places).optional? "description" Json.text? =
      some b.description := Record.optional?_recordOf hplaces rfl rfl fun _ _ => rfl
  have hrequired : (recordOf places).optional? "required" Json.flag? = some b.required :=
    Record.optional?_recordOf hplaces rfl rfl fun _ _ => rfl
  have hcontent : (recordOf places).required? "content" (mapOf? MediaType.ofJson?) =
      some b.content := Record.required?_recordOf hplaces rfl (contentOfJson?_toJson h)
  rw [hjson, ofJson?, record?_fieldsOf hplaces]
  simp [hdescription, hrequired, hcontent]

theorem ordered_of_ofJson? (j : Json) (b : RequestBody) (h : ofJson? j = some b) :
    b.Ordered := by
  simp only [ofJson?, Option.bind_eq_bind, Option.bind_eq_some_iff] at h
  obtain ⟨r, -, description, -, required, -, content, hcontent, heq⟩ := h
  cases heq
  show content.Ordered MediaType.Ordered
  exact Record.of_required? ordered_of_contentOfJson? hcontent

end RequestBody

namespace Response

theorem ofJson?_toJson {r : Response} (h : r.Ordered) : ofJson? r.toJson = some r := by
  let places := [("description", some (.string r.description)),
    ("content", r.content.map (ofMap MediaType.toJson))]
  have hplaces : (places.map Prod.fst).Nodup := by simp [places]
  have hjson : r.toJson = .object (fieldsOf places) := by
    simp only [places, toJson, fieldsOf_cons_map, fieldsOf, List.cons_append, List.nil_append,
      List.append_nil]
  have hdescription : (recordOf places).required? "description" Json.text? =
      some r.description := Record.required?_recordOf hplaces rfl rfl
  have hcontent : (recordOf places).optional? "content" (mapOf? MediaType.ofJson?) =
      some r.content :=
    Record.optional?_recordOf hplaces rfl rfl fun content hcontent =>
      contentOfJson?_toJson (h content hcontent)
  rw [hjson, ofJson?, record?_fieldsOf hplaces]
  simp [hdescription, hcontent]

theorem ordered_of_ofJson? (j : Json) (r : Response) (h : ofJson? j = some r) : r.Ordered := by
  simp only [ofJson?, Option.bind_eq_bind, Option.bind_eq_some_iff] at h
  obtain ⟨record, -, description, -, content, hcontent, heq⟩ := h
  cases heq
  exact Record.of_optional? ordered_of_contentOfJson? hcontent

end Response

namespace RestOperation

theorem ofJson?_toJson {o : RestOperation} (h : o.Ordered) : ofJson? o.toJson = some o := by
  let places := [("operationId", o.operationId.map .string), ("tags", o.tags.map ofTexts),
    ("summary", o.summary.map .string), ("description", o.description.map .string),
    ("parameters", o.parameters.map fun ps => .array (ps.map RestParameter.toJson)),
    ("requestBody", o.requestBody.map RequestBody.toJson),
    ("responses", some (ofMap Response.toJson o.responses))]
  have hplaces : (places.map Prod.fst).Nodup := by simp [places]
  have hjson : o.toJson = .object (fieldsOf places) := by
    simp only [places, toJson, fieldsOf_cons_map, fieldsOf, List.append_assoc]
  have hid : (recordOf places).optional? "operationId" Json.text? = some o.operationId :=
    Record.optional?_recordOf hplaces rfl rfl fun _ _ => rfl
  have htags : (recordOf places).optional? "tags" (DataNode.listOf? Json.text?) = some o.tags :=
    Record.optional?_recordOf hplaces rfl rfl fun tags _ => listOf?_ofTexts tags
  have hsummary : (recordOf places).optional? "summary" Json.text? = some o.summary :=
    Record.optional?_recordOf hplaces rfl rfl fun _ _ => rfl
  have hdescription : (recordOf places).optional? "description" Json.text? =
      some o.description := Record.optional?_recordOf hplaces rfl rfl fun _ _ => rfl
  have hparameters : (recordOf places).optional? "parameters"
      (DataNode.listOf? RestParameter.ofJson?) = some o.parameters := by
    refine Record.optional?_recordOf hplaces rfl rfl fun parameters hparameters => ?_
    apply listOf?_map
    intro p hp
    exact RestParameter.ofJson?_toJson (h.parameters parameters hparameters p hp)
  have hbody : (recordOf places).optional? "requestBody" RequestBody.ofJson? =
      some o.requestBody :=
    Record.optional?_recordOf hplaces rfl rfl fun body hbody =>
      RequestBody.ofJson?_toJson (h.requestBody body hbody)
  have hresponses : (recordOf places).required? "responses" (mapOf? Response.ofJson?) =
      some o.responses :=
    Record.required?_recordOf hplaces rfl
      (mapOf?_ofMap (h.responses.imp fun _ => Response.ofJson?_toJson))
  rw [hjson, ofJson?, record?_fieldsOf hplaces]
  simp [hid, htags, hsummary, hdescription, hparameters, hbody, hresponses]

theorem ordered_of_ofJson? (j : Json) (o : RestOperation) (h : ofJson? j = some o) :
    o.Ordered := by
  simp only [ofJson?, Option.bind_eq_bind, Option.bind_eq_some_iff] at h
  obtain ⟨r, -, id, -, tags, -, summary, -, description, -, parameters, hparameters, body, hbody,
    responses, hresponses, heq⟩ := h
  cases heq
  constructor
  · exact Record.of_optional? (fun _ _ => DataNode.forall_of_listOf?
      RestParameter.ordered_of_ofJson?) hparameters
  · exact Record.of_optional? RequestBody.ordered_of_ofJson? hbody
  · exact Record.of_required? (fun _ _ => ordered_of_mapOf? Response.ordered_of_ofJson?)
      hresponses

end RestOperation

namespace PathItem

theorem ofJson?_toJson {item : PathItem} (h : item.Ordered) : ofJson? item.toJson = some item := by
  let places := [("get", item.get.map RestOperation.toJson),
    ("post", item.post.map RestOperation.toJson), ("put", item.put.map RestOperation.toJson),
    ("delete", item.delete.map RestOperation.toJson)]
  have hplaces : (places.map Prod.fst).Nodup := by simp [places]
  have hjson : item.toJson = .object (fieldsOf places) := by
    simp only [places, toJson, fieldsOf_cons_map, fieldsOf, List.append_assoc, List.append_nil]
  have hmethod : ∀ method, ∀ o ∈ item.getOperation? method,
      RestOperation.ofJson? o.toJson = some o :=
    fun method o ho => RestOperation.ofJson?_toJson (h method o ho)
  have hget : (recordOf places).optional? "get" RestOperation.ofJson? = some item.get :=
    Record.optional?_recordOf hplaces rfl rfl (hmethod .get)
  have hpost : (recordOf places).optional? "post" RestOperation.ofJson? = some item.post :=
    Record.optional?_recordOf hplaces rfl rfl (hmethod .post)
  have hput : (recordOf places).optional? "put" RestOperation.ofJson? = some item.put :=
    Record.optional?_recordOf hplaces rfl rfl (hmethod .put)
  have hdelete : (recordOf places).optional? "delete" RestOperation.ofJson? = some item.delete :=
    Record.optional?_recordOf hplaces rfl rfl (hmethod .delete)
  rw [hjson, ofJson?, record?_fieldsOf hplaces]
  simp [hget, hpost, hput, hdelete]

theorem ordered_of_ofJson? (j : Json) (item : PathItem) (h : ofJson? j = some item) :
    item.Ordered := by
  simp only [ofJson?, Option.bind_eq_bind, Option.bind_eq_some_iff] at h
  obtain ⟨r, -, get, hget, post, hpost, put, hput, delete, hdelete, heq⟩ := h
  cases heq
  intro method
  cases method with
  | get => exact Record.of_optional? RestOperation.ordered_of_ofJson? hget
  | post => exact Record.of_optional? RestOperation.ordered_of_ofJson? hpost
  | put => exact Record.of_optional? RestOperation.ordered_of_ofJson? hput
  | delete => exact Record.of_optional? RestOperation.ordered_of_ofJson? hdelete

end PathItem

namespace Components

theorem ofJson?_toJson {c : Components} (h : c.Ordered) : ofJson? c.toJson = some c := by
  let places := [("schemas", c.schemas.map (ofMap Schema.toJson))]
  have hplaces : (places.map Prod.fst).Nodup := by simp [places]
  have hjson : c.toJson = .object (fieldsOf places) := by
    simp only [places, toJson, fieldsOf_cons_map, fieldsOf, List.append_nil]
  have hschemas : (recordOf places).optional? "schemas" (mapOf? Schema.ofJson?) =
      some c.schemas := by
    refine Record.optional?_recordOf hplaces rfl rfl fun schemas hschemas => ?_
    exact mapOf?_ofMap ((h schemas hschemas).imp fun _ => Schema.ofJson?_toJson)
  rw [hjson, ofJson?, record?_fieldsOf hplaces]
  simp [hschemas]

theorem ordered_of_ofJson? (j : Json) (c : Components) (h : ofJson? j = some c) : c.Ordered := by
  simp only [ofJson?, Option.bind_eq_bind, Option.bind_eq_some_iff] at h
  obtain ⟨r, -, schemas, hschemas, heq⟩ := h
  cases heq
  exact Record.of_optional? (fun _ _ => ordered_of_mapOf? Schema.ordered_of_ofJson?) hschemas

end Components

namespace Document

theorem ofJson?_toJson {d : Document} (h : d.Ordered) : ofJson? d.toJson = some d := by
  let places := [("openapi", some d.openapi.toJson), ("info", some d.info.toJson),
    ("paths", some (ofMap PathItem.toJson d.paths)),
    ("components", d.components.map Components.toJson),
    ("tags", d.tags.map fun tags => .array (tags.map Tag.toJson))]
  have hplaces : (places.map Prod.fst).Nodup := by simp [places]
  have hjson : d.toJson = .object (fieldsOf places) := by
    simp only [places, toJson, fieldsOf_cons_map, fieldsOf, List.cons_append, List.nil_append,
      List.append_nil]
  have hversion : (recordOf places).required? "openapi" DocumentVersion.ofJson? =
      some d.openapi := Record.required?_recordOf hplaces rfl d.openapi.ofJson?_toJson
  have hinfo : (recordOf places).required? "info" Info.ofJson? = some d.info :=
    Record.required?_recordOf hplaces rfl d.info.ofJson?_toJson
  have hpaths : (recordOf places).required? "paths" (mapOf? PathItem.ofJson?) = some d.paths :=
    Record.required?_recordOf hplaces rfl
      (mapOf?_ofMap (h.paths.imp fun _ => PathItem.ofJson?_toJson))
  have hcomponents : (recordOf places).optional? "components" Components.ofJson? =
      some d.components :=
    Record.optional?_recordOf hplaces rfl rfl fun components hcomponents =>
      Components.ofJson?_toJson (h.components components hcomponents)
  have htags : (recordOf places).optional? "tags" (DataNode.listOf? Tag.ofJson?) =
      some d.tags :=
    Record.optional?_recordOf hplaces rfl rfl fun tags _ =>
      listOf?_map fun tag _ => tag.ofJson?_toJson
  rw [hjson, ofJson?, record?_fieldsOf hplaces]
  simp [hversion, hinfo, hpaths, hcomponents, htags]

theorem ordered_of_ofJson? (j : Json) (d : Document) (h : ofJson? j = some d) : d.Ordered := by
  simp only [ofJson?, Option.bind_eq_bind, Option.bind_eq_some_iff] at h
  obtain ⟨r, -, version, -, info, -, paths, hpaths, components, hcomponents, tags, -, heq⟩ := h
  cases heq
  constructor
  · exact Record.of_required? (fun _ _ => ordered_of_mapOf? PathItem.ordered_of_ofJson?) hpaths
  · exact Record.of_optional? Components.ordered_of_ofJson? hcomponents

/-- A document is read from what it is written as exactly if its maps have their names in
order. -/
theorem read_written_iff_ordered (d : Document) : ofJson? d.toJson = some d ↔ d.Ordered :=
  ⟨ordered_of_ofJson? d.toJson d, ofJson?_toJson⟩

end Document

end RestContract
