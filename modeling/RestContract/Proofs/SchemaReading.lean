import RestContract.Proofs.JsonRecords
import RestContract.Proofs.SchemaReferences
import RestContract.Schema.Encoding

/-!
Schemas written as JSON and read again. A position is taken for a reference exactly if it was
written as one, since no keyword of a schema is `$ref`; a property of that name stands one
level further in. A schema is read again if its property maps have their names in order at
every level, and whatever is read is of this form.
-/
namespace RestContract

inductive SchemaRef.Ordered : SchemaRef → Prop
  | reference (path : String) : Ordered (.reference path)
  | inline {schema : Schema} :
      (∀ properties ∈ schema.properties, properties.Sorted) →
      (∀ part ∈ schema.parts, Ordered part) → Ordered (.inline schema)

def Schema.Ordered (s : Schema) : Prop := SchemaRef.Ordered (.inline s)

theorem SchemaType.ofJson?_toJson (t : SchemaType) : ofJson? t.toJson = some t := by
  cases t <;> rfl

theorem Json.listOf?_ofTexts (texts : List String) :
    DataNode.listOf? Json.text? (Json.ofTexts texts) = some texts :=
  Json.listOf?_map fun _ _ => rfl

theorem Discriminator.ofJson?_toJson (d : Discriminator) : ofJson? d.toJson = some d := rfl

theorem positionsToJson_eq_map (positions : List SchemaRef) :
    positionsToJson positions = positions.map SchemaRef.toJson := by
  induction positions with
  | nil => rfl
  | cons first rest ih => rw [positionsToJson, ih, List.map_cons]

theorem propertiesToJson_eq_map (entries : List (String × SchemaRef)) :
    propertiesToJson entries = entries.map fun (name, position) => (name, position.toJson) := by
  induction entries with
  | nil => rfl
  | cons first rest ih => rw [propertiesToJson, ih, List.map_cons]

theorem positionField_eq (name : String) (position : Option SchemaRef) :
    positionField name position = Json.optionalField name SchemaRef.toJson position := by
  cases position <;> rfl

def positionsJson (positions : List SchemaRef) : Json := .array (positions.map SchemaRef.toJson)

theorem positionsField_eq (name : String) (positions : Option (List SchemaRef)) :
    positionsField name positions = Json.optionalField name positionsJson positions := by
  cases positions with
  | none => rfl
  | some positions => rw [positionsField, positionsToJson_eq_map]; rfl

theorem propertiesField_eq (name : String) (properties : Option (SortedMap SchemaRef)) :
    propertiesField name properties =
      Json.optionalField name (Json.ofMap SchemaRef.toJson) properties := by
  cases properties with
  | none => rfl
  | some properties => rw [propertiesField, propertiesToJson_eq_map]; rfl

namespace Schema

def places (s : Schema) : List (String × Option Json) :=
  [("type", s.type.map SchemaType.toJson), ("format", s.format.map .string),
    ("description", s.description.map .string), ("items", s.items.map SchemaRef.toJson),
    ("uniqueItems", s.uniqueItems.map .bool),
    ("properties", s.properties.map (Json.ofMap SchemaRef.toJson)),
    ("required", s.required.map Json.ofTexts),
    ("additionalProperties", s.additionalProperties.map SchemaRef.toJson),
    ("enum", s.constants.map Json.ofTexts), ("allOf", s.allOf.map positionsJson),
    ("oneOf", s.oneOf.map positionsJson),
    ("discriminator", s.discriminator.map Discriminator.toJson)]

theorem toJson_eq (s : Schema) : s.toJson = .object (Json.fieldsOf s.places) := by
  cases s
  simp only [places, Json.fieldsOf_cons_map, Json.fieldsOf, toJson, positionField_eq,
    positionsField_eq, propertiesField_eq, List.append_nil, List.append_assoc]

theorem places_nodup (s : Schema) : (s.places.map Prod.fst).Nodup := by
  change fieldNames.Nodup
  decide

/-- No schema is taken for a reference. -/
theorem referenceOfJson?_toJson (s : Schema) : referenceOfJson? s.toJson = none := by
  have hplace : s.places.lookup "$ref" = none := by simp [places]
  rw [toJson_eq, referenceOfJson?, Json.record?_fieldsOf s.places_nodup]
  simp [Record.required?, Record.get?_recordOf s.places_nodup, hplace]

/-- What stands directly inside a schema has fewer levels. -/
theorem height_part_lt {s : Schema} {part : SchemaRef} (h : part ∈ s.parts) :
    part.toJson.height < s.toJson.height := by
  rw [toJson_eq]
  have hin : ∀ name j, (name, some j) ∈ s.places →
      j.height < (Json.object (Json.fieldsOf s.places)).height :=
    fun name j hplace => Json.height_lt_object (Json.mem_fieldsOf hplace)
  have hlist : ∀ name positions, part ∈ positions →
      (name, some (positionsJson positions)) ∈ s.places →
      part.toJson.height < (Json.object (Json.fieldsOf s.places)).height :=
    fun name positions hpart hplace =>
      Nat.lt_trans (Json.height_lt_array (List.mem_map_of_mem hpart)) (hin name _ hplace)
  simp only [parts, List.mem_append, Option.mem_toList] at h
  rcases h with (((hitems | hproperty) | hadditional) | hall) | hone
  · exact hin "items" _ (by simp [places, hitems])
  · cases hproperties : s.properties with
    | none => simp [hproperties, SortedMap.empty] at hproperty
    | some properties =>
      rw [hproperties] at hproperty
      obtain ⟨⟨name, position⟩, hentry, rfl⟩ := List.mem_map.mp hproperty
      have hinside : (name, position.toJson) ∈
          properties.entries.map fun (key, value) => (key, SchemaRef.toJson value) :=
        List.mem_map.mpr ⟨_, hentry, rfl⟩
      exact Nat.lt_trans (Json.height_lt_object hinside)
        (hin "properties" (Json.ofMap SchemaRef.toJson properties) (by simp [places, hproperties]))
  · exact hin "additionalProperties" _ (by simp [places, hadditional])
  · cases hall' : s.allOf with
    | none => simp [hall'] at hall
    | some positions =>
      exact hlist "allOf" positions (by simpa [hall'] using hall) (by simp [places, hall'])
  · cases hone' : s.oneOf with
    | none => simp [hone'] at hone
    | some positions =>
      exact hlist "oneOf" positions (by simpa [hone'] using hone) (by simp [places, hone'])

end Schema

theorem Schema.ofJsonWithin?_null (levels : Nat) : Schema.ofJsonWithin? levels .null = none := by
  cases levels <;> rfl

theorem SchemaRef.ofJsonWithin?_null (levels : Nat) :
    SchemaRef.ofJsonWithin? levels .null = none := by
  cases levels with
  | zero => rfl
  | succ levels =>
    change (Schema.ofJsonWithin? levels .null).map SchemaRef.inline = none
    rw [Schema.ofJsonWithin?_null, Option.map_none]

/-- A schema is read again if the positions inside it are. -/
theorem Schema.ofJsonWithin?_toJson_of_parts {levels : Nat} {s : Schema} (h : s.Ordered)
    (hparts : ∀ part ∈ s.parts, SchemaRef.ofJsonWithin? levels part.toJson = some part) :
    Schema.ofJsonWithin? (levels + 1) s.toJson = some s := by
  have hplaces := s.places_nodup
  have hnull := SchemaRef.ofJsonWithin?_null levels
  cases h with
  | inline hsorted _ =>
  have htype : (Json.recordOf s.places).optional? "type" SchemaType.ofJson? = some s.type :=
    Record.optional?_recordOf hplaces rfl rfl fun t _ => t.ofJson?_toJson
  have hformat : (Json.recordOf s.places).optional? "format" Json.text? = some s.format :=
    Record.optional?_recordOf hplaces rfl rfl fun _ _ => rfl
  have hdescription : (Json.recordOf s.places).optional? "description" Json.text? =
      some s.description := Record.optional?_recordOf hplaces rfl rfl fun _ _ => rfl
  have hitems : (Json.recordOf s.places).optional? "items" (SchemaRef.ofJsonWithin? levels) =
      some s.items := by
    refine Record.optional?_recordOf hplaces rfl hnull fun items hitems => hparts items ?_
    simp [parts, Option.mem_def.mp hitems]
  have hunique : (Json.recordOf s.places).optional? "uniqueItems" Json.flag? =
      some s.uniqueItems := Record.optional?_recordOf hplaces rfl rfl fun _ _ => rfl
  have hproperties : (Json.recordOf s.places).optional? "properties"
      (Json.mapOf? (SchemaRef.ofJsonWithin? levels)) = some s.properties := by
    refine Record.optional?_recordOf hplaces rfl rfl fun properties hproperties => ?_
    refine Json.mapOf?_ofMap ⟨hsorted properties hproperties, fun entry hentry => ?_⟩
    apply hparts
    have hvalue : entry.2 ∈ properties.entries.map Prod.snd := List.mem_map_of_mem hentry
    simp [parts, Option.mem_def.mp hproperties, hvalue]
  have hrequired : (Json.recordOf s.places).optional? "required"
      (DataNode.listOf? Json.text?) = some s.required :=
    Record.optional?_recordOf hplaces rfl rfl fun texts _ => Json.listOf?_ofTexts texts
  have hadditional : (Json.recordOf s.places).optional? "additionalProperties"
      (SchemaRef.ofJsonWithin? levels) = some s.additionalProperties := by
    refine Record.optional?_recordOf hplaces rfl hnull fun values hvalues => hparts values ?_
    simp [parts, Option.mem_def.mp hvalues]
  have hconstants : (Json.recordOf s.places).optional? "enum" (DataNode.listOf? Json.text?) =
      some s.constants :=
    Record.optional?_recordOf hplaces rfl rfl fun texts _ => Json.listOf?_ofTexts texts
  have hall : (Json.recordOf s.places).optional? "allOf"
      (DataNode.listOf? (SchemaRef.ofJsonWithin? levels)) = some s.allOf := by
    refine Record.optional?_recordOf hplaces rfl rfl fun positions hpositions => ?_
    refine Json.listOf?_map fun position hposition => hparts position ?_
    simp [parts, Option.mem_def.mp hpositions, hposition]
  have hone : (Json.recordOf s.places).optional? "oneOf"
      (DataNode.listOf? (SchemaRef.ofJsonWithin? levels)) = some s.oneOf := by
    refine Record.optional?_recordOf hplaces rfl rfl fun positions hpositions => ?_
    refine Json.listOf?_map fun position hposition => hparts position ?_
    simp [parts, Option.mem_def.mp hpositions, hposition]
  have hdiscriminator : (Json.recordOf s.places).optional? "discriminator"
      Discriminator.ofJson? = some s.discriminator :=
    Record.optional?_recordOf hplaces rfl rfl fun d _ => d.ofJson?_toJson
  rw [s.toJson_eq, Schema.ofJsonWithin?, Json.record?_fieldsOf hplaces]
  simp [htype, hformat, hdescription, hitems, hunique, hproperties, hrequired, hadditional,
    hconstants, hall, hone, hdiscriminator]
  cases s
  rfl

/-- Twice the levels of the written value are enough for a position, and one level less for
a schema. -/
theorem ofJsonWithin?_toJson (levels : Nat) :
    (∀ ref : SchemaRef, ref.Ordered → 2 * ref.toJson.height ≤ levels →
      SchemaRef.ofJsonWithin? levels ref.toJson = some ref) ∧
    ∀ s : Schema, s.Ordered → 2 * s.toJson.height ≤ levels + 1 →
      Schema.ofJsonWithin? levels s.toJson = some s := by
  induction levels with
  | zero =>
    refine ⟨fun ref _ hlevels => ?_, fun s _ hlevels => ?_⟩
    · have hpos := ref.toJson.height_pos
      omega
    · have hpos := s.toJson.height_pos
      omega
  | succ levels ih =>
    obtain ⟨ihref, ihschema⟩ := ih
    refine ⟨fun ref href hlevels => ?_, fun s hs hlevels => ?_⟩
    · cases ref with
      | reference path => rfl
      | inline s =>
        change 2 * s.toJson.height ≤ levels + 1 at hlevels
        have hschema := ihschema s href hlevels
        simp only [SchemaRef.toJson, SchemaRef.ofJsonWithin?, s.referenceOfJson?_toJson, hschema,
          Option.map_some]
    · apply Schema.ofJsonWithin?_toJson_of_parts hs
      intro part hpart
      have hheight := Schema.height_part_lt hpart
      cases hs with
      | inline _ hparts => exact ihref part (hparts part hpart) (by omega)

theorem SchemaRef.ofJson?_toJson {ref : SchemaRef} (h : ref.Ordered) :
    SchemaRef.ofJson? ref.toJson = some ref :=
  (ofJsonWithin?_toJson _).1 ref h (Nat.le_refl _)

theorem Schema.ofJson?_toJson {s : Schema} (h : s.Ordered) : Schema.ofJson? s.toJson = some s :=
  (ofJsonWithin?_toJson _).2 s h (Nat.le_succ _)

theorem ordered_of_ofJsonWithin? (levels : Nat) :
    (∀ j ref, SchemaRef.ofJsonWithin? levels j = some ref → ref.Ordered) ∧
    ∀ j s, Schema.ofJsonWithin? levels j = some s → s.Ordered := by
  induction levels with
  | zero => exact ⟨nofun, nofun⟩
  | succ levels ih =>
    obtain ⟨ihref, ihschema⟩ := ih
    refine ⟨fun j ref h => ?_, fun j s h => ?_⟩
    · unfold SchemaRef.ofJsonWithin? at h
      split at h
      next path _ =>
        cases h
        exact .reference path
      next =>
        obtain ⟨s, hs, rfl⟩ := Option.map_eq_some_iff.mp h
        exact ihschema j s hs
    · unfold Schema.ofJsonWithin? at h
      obtain ⟨r, -, h⟩ := Option.bind_eq_some_iff.mp h
      obtain ⟨type, -, h⟩ := Option.bind_eq_some_iff.mp h
      obtain ⟨format, -, h⟩ := Option.bind_eq_some_iff.mp h
      obtain ⟨description, -, h⟩ := Option.bind_eq_some_iff.mp h
      obtain ⟨items, hitems, h⟩ := Option.bind_eq_some_iff.mp h
      obtain ⟨unique, -, h⟩ := Option.bind_eq_some_iff.mp h
      obtain ⟨properties, hproperties, h⟩ := Option.bind_eq_some_iff.mp h
      obtain ⟨required, -, h⟩ := Option.bind_eq_some_iff.mp h
      obtain ⟨additional, hadditional, h⟩ := Option.bind_eq_some_iff.mp h
      obtain ⟨constants, -, h⟩ := Option.bind_eq_some_iff.mp h
      obtain ⟨all, hall, h⟩ := Option.bind_eq_some_iff.mp h
      obtain ⟨one, hone, h⟩ := Option.bind_eq_some_iff.mp h
      obtain ⟨discriminator, -, h⟩ := Option.bind_eq_some_iff.mp h
      cases h
      have hmap := Record.of_optional? (fun j map => Json.ordered_of_mapOf? ihref) hproperties
      have hlist := fun j positions =>
        @DataNode.forall_of_listOf? _ _ _ _ _ j positions ihref
      refine .inline (fun map hmem => (hmap map hmem).sorted) fun part hpart => ?_
      simp only [Schema.parts, List.mem_append, Option.mem_toList] at hpart
      rcases hpart with (((hpart | hpart) | hpart) | hpart) | hpart
      · exact Record.of_optional? ihref hitems part hpart
      · cases properties with
        | none => simp [SortedMap.empty] at hpart
        | some map =>
          obtain ⟨entry, hentry, rfl⟩ := List.mem_map.mp hpart
          exact (hmap map rfl).values entry hentry
      · exact Record.of_optional? ihref hadditional part hpart
      · cases all with
        | none => cases hpart
        | some positions => exact Record.of_optional? hlist hall positions rfl part hpart
      · cases one with
        | none => cases hpart
        | some positions => exact Record.of_optional? hlist hone positions rfl part hpart

theorem SchemaRef.ordered_of_ofJson? (j : Json) (ref : SchemaRef)
    (h : SchemaRef.ofJson? j = some ref) : ref.Ordered :=
  (ordered_of_ofJsonWithin? _).1 j ref h

theorem Schema.ordered_of_ofJson? (j : Json) (s : Schema) (h : Schema.ofJson? j = some s) :
    s.Ordered :=
  (ordered_of_ofJsonWithin? _).2 j s h

end RestContract
