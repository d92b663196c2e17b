import RestContract.Document.Basic
import RestContract.Proofs.Registries
import RestContract.Resolution.Resolver

/-!
References inside schemas. The parts of a schema are the positions directly inside
it, under whatever keyword; a path is mentioned at a position if a reference to it
stands there or anywhere inside. A registry covers a position if every path
mentioned there leads to a name that some origin owns. Covering is kept by every
way in which resolution puts positions together, and names are never given up.
-/
namespace RestContract

def Schema.parts (s : Schema) : List SchemaRef :=
  s.items.toList ++ (s.properties.getD .empty).entries.map Prod.snd ++
    s.additionalProperties.toList ++ s.allOf.getD [] ++ s.oneOf.getD []

/-- A reference with the path stands at the position or anywhere inside it. -/
inductive SchemaRef.Mentions (path : String) : SchemaRef → Prop
  | here : Mentions path (.reference path)
  | inside {schema : Schema} {part : SchemaRef} :
      part ∈ schema.parts → Mentions path part → Mentions path (.inline schema)

theorem SchemaRef.component_inj {name other : String}
    (h : SchemaRef.component name = .component other) : name = other := by
  injection h with hpath
  have hchars := congrArg String.toList hpath
  rw [String.toList_append, String.toList_append] at hchars
  exact String.toList_inj.mp (List.append_cancel_left hchars)

namespace Registry

variable {r r' r'' : Registry} {ref : SchemaRef}

def Extends (r r' : Registry) : Prop :=
  ∀ origin name, r.nameOf? origin = some name → r'.nameOf? origin = some name

theorem Extends.refl (r : Registry) : r.Extends r := fun _ _ h => h

theorem Extends.trans (h : r.Extends r') (h' : r'.Extends r'') : r.Extends r'' :=
  fun origin name hname => h' origin name (h origin name hname)

theorem extends_enroll {name : String} {origin : Origin} : r.Extends (r.enroll name origin) := by
  intro other known hknown
  by_cases h : r.contains name = false ∧ r.nameOf? origin = none
  · have hne : other ≠ origin := by
      rintro rfl
      rw [h.2] at hknown
      cases hknown
    rw [nameOf?_enroll h.1 h.2, if_neg hne, hknown]
  · rwa [enroll, dif_neg h]

def Covers (r : Registry) (ref : SchemaRef) : Prop :=
  ∀ path, ref.Mentions path →
    ∃ origin name, r.nameOf? origin = some name ∧ path = componentPath ++ name

theorem Covers.mono (h : r.Covers ref) (hext : r.Extends r') : r'.Covers ref := by
  intro path hpath
  obtain ⟨origin, name, hname, heq⟩ := h path hpath
  exact ⟨origin, name, hext origin name hname, heq⟩

theorem covers_inline_iff {schema : Schema} :
    r.Covers (.inline schema) ↔ ∀ part ∈ schema.parts, r.Covers part := by
  constructor
  · intro h part hpart path hpath
    exact h path (.inside hpart hpath)
  · intro h path hpath
    cases hpath with
    | inside hpart hmention => exact h _ hpart path hmention

theorem covers_component {origin : Origin} {name : String} (h : r.nameOf? origin = some name) :
    r.Covers (.component name) := by
  intro path hpath
  cases hpath with
  | here => exact ⟨origin, name, h, rfl⟩

/-- A schema without positions inside mentions nothing. -/
theorem covers_of_parts_nil {schema : Schema} (h : schema.parts = []) :
    r.Covers (.inline schema) := by
  simp [covers_inline_iff, h]

theorem covers_freeForm : r.Covers freeForm := covers_of_parts_nil rfl

theorem covers_array (h : r.Covers ref) : r.Covers (.inline (.array ref)) := by
  simpa [covers_inline_iff, Schema.parts, Schema.array, SortedMap.empty] using h

theorem covers_collection (family : ContainerFamily) (h : r.Covers ref) :
    r.Covers (Resolver.collectionSchema family ref) := by
  cases family with
  | sequence | map => exact covers_array h
  | set =>
    simpa [Resolver.collectionSchema, covers_inline_iff, Schema.parts, Schema.array,
      SortedMap.empty] using h

theorem covers_mapOf (h : r.Covers ref) : r.Covers (.inline (.mapOf ref)) := by
  simpa [covers_inline_iff, Schema.parts, Schema.mapOf, SortedMap.empty] using h

theorem covers_withDescription {schema : Schema} {text : String}
    (h : r.Covers (.inline schema)) : r.Covers (.inline (schema.withDescription text)) := by
  rw [covers_inline_iff] at h ⊢
  exact h

theorem covers_insertProperty {schema : Schema} {name : String}
    (hs : r.Covers (.inline schema)) (h : r.Covers ref) :
    r.Covers (.inline (schema.insertProperty name ref)) := by
  rw [covers_inline_iff] at hs ⊢
  intro part hpart
  simp only [Schema.parts, Schema.insertProperty, Option.getD_some, List.mem_append,
    List.mem_map] at hpart hs
  rcases hpart with (((hitem | ⟨entry, hentry, rfl⟩) | hadd) | hall) | hone
  · exact hs part (.inl (.inl (.inl (.inl hitem))))
  · rcases SortedMap.mem_entries_insert hentry with rfl | hold
    · exact h
    · exact hs _ (.inl (.inl (.inl (.inr ⟨entry, hold, rfl⟩))))
  · exact hs part (.inl (.inl (.inr hadd)))
  · exact hs part (.inl (.inr hall))
  · exact hs part (.inr hone)

theorem covers_object : r.Covers (.inline Schema.object) := covers_of_parts_nil rfl

end Registry

def contentPositions (content : SortedMap MediaType) : List SchemaRef :=
  content.entries.filterMap (·.2.schema)

def Response.positions (response : Response) : List SchemaRef :=
  (response.content.toList).flatMap contentPositions

def RestOperation.positions (o : RestOperation) : List SchemaRef :=
  (o.parameters.getD []).map RestParameter.schema ++
    o.requestBody.toList.flatMap (contentPositions ·.content) ++
    o.responses.entries.flatMap (·.2.positions)

def PathItem.operations (item : PathItem) : List RestOperation :=
  item.get.toList ++ item.post.toList ++ item.put.toList ++ item.delete.toList

def Document.operationPositions (d : Document) : List SchemaRef :=
  d.paths.entries.flatMap fun (_, item) => item.operations.flatMap RestOperation.positions

/-- Every outermost schema position of a document: those of its operations and its
component schemas. -/
def Document.positions (d : Document) : List SchemaRef :=
  d.operationPositions ++ d.schemas.entries.map fun (_, schema) => .inline schema

end RestContract
