import RestContract.Json.Decoding
import RestContract.Proofs.SortedMaps

/-!
Values written as JSON and read again. The fields of a written record come from places, one
for each declared name, of which some are left empty; a reader that asks for a declared name
finds what its place holds. Lists, maps and optional fields are read again as soon as what
they hold is, where a map has to have its names in order.
-/
namespace RestContract

structure SortedMap.Ordered {α : Type} (ok : α → Prop) (map : SortedMap α) : Prop where
  sorted : map.Sorted
  values : ∀ entry ∈ map.entries, ok entry.2

theorem SortedMap.Ordered.imp {α : Type} {ok ok' : α → Prop} {map : SortedMap α}
    (h : map.Ordered ok) (himp : ∀ a, ok a → ok' a) : map.Ordered ok' :=
  ⟨h.sorted, fun entry hentry => himp entry.2 (h.values entry hentry)⟩

namespace Json

variable {α : Type} {encode : α → Json} {decode : Json → Option α} {ok : α → Prop}

def fieldsOf : List (String × Option Json) → List (String × Json)
  | [] => []
  | (name, some value) :: rest => (name, value) :: fieldsOf rest
  | (_, none) :: rest => fieldsOf rest

theorem fieldsOf_cons_map (name : String) (encode : α → Json) (value : Option α)
    (rest : List (String × Option Json)) :
    fieldsOf ((name, value.map encode) :: rest) =
      optionalField name encode value ++ fieldsOf rest := by
  cases value <;> rfl

theorem mem_fieldsOf {name : String} {value : Json} {places : List (String × Option Json)}
    (h : (name, some value) ∈ places) : (name, value) ∈ fieldsOf places := by
  fun_induction fieldsOf places with
  | case1 => cases h
  | case2 key other rest ih =>
    rcases List.mem_cons.mp h with heq | hrest
    · cases heq
      exact List.mem_cons_self ..
    · exact List.mem_cons_of_mem _ (ih hrest)
  | case3 key rest ih =>
    rcases List.mem_cons.mp h with heq | hrest
    · cases heq
    · exact ih hrest

theorem keys_fieldsOf_sublist (places : List (String × Option Json)) :
    ((fieldsOf places).map Prod.fst).Sublist (places.map Prod.fst) := by
  fun_induction fieldsOf places with
  | case1 => exact .slnil
  | case2 name value rest ih => exact ih.cons_cons name
  | case3 name rest ih => exact ih.cons name

theorem lookup_fieldsOf {places : List (String × Option Json)}
    (h : (places.map Prod.fst).Nodup) (name : String) :
    (fieldsOf places).lookup name = (places.lookup name).join := by
  fun_induction fieldsOf places with
  | case1 => rfl
  | case2 key value rest ih =>
    rw [lookup_cons_ite, lookup_cons_ite, ih (List.nodup_cons.mp h).2]
    split <;> rfl
  | case3 key rest ih =>
    obtain ⟨hkey, hrest⟩ := List.nodup_cons.mp h
    rw [lookup_cons_ite, ih hrest]
    split
    next heq =>
      have hnone : rest.lookup name = none := by
        rw [List.lookup_eq_none_iff]
        intro entry hentry
        rw [bne_iff_ne]
        intro hname
        exact hkey (List.mem_map.mpr ⟨entry, hentry, hname.symm.trans heq⟩)
      rw [hnone]
      rfl
    next => rfl

theorem keysDistinct_of_nodup {keys : List String} (h : keys.Nodup) (names : List String) :
    keysDistinct names keys = true := by
  rw [keysDistinct, List.all_eq_true]
  intro name _
  have hcount := List.nodup_iff_count.mp h name
  rw [List.count_eq_length_filter] at hcount
  simpa using hcount

def recordOf (places : List (String × Option Json)) : Record Json := ⟨fieldsOf places, false⟩

theorem record?_fieldsOf {places : List (String × Option Json)}
    (h : (places.map Prod.fst).Nodup) (names : List String) :
    record? names (.object (fieldsOf places)) = some (recordOf places) := by
  rw [record?, if_pos, recordOf]
  exact keysDistinct_of_nodup (h.sublist (keys_fieldsOf_sublist places)) names

theorem height_pos (j : Json) : 0 < j.height := by
  cases j <;> simp [height]

theorem height_lt_array {items : List Json} {j : Json} (h : j ∈ items) :
    j.height < (Json.array items).height := by
  rw [height, Nat.lt_succ_iff]
  induction items with
  | nil => cases h
  | cons first rest ih =>
    rw [heightOfItems]
    rcases List.mem_cons.mp h with rfl | hrest
    · exact Nat.le_max_left ..
    · exact Nat.le_trans (ih hrest) (Nat.le_max_right ..)

theorem height_lt_object {fields : List (String × Json)} {name : String} {j : Json}
    (h : (name, j) ∈ fields) : j.height < (Json.object fields).height := by
  rw [height, Nat.lt_succ_iff]
  induction fields with
  | nil => cases h
  | cons first rest ih =>
    obtain ⟨key, value⟩ := first
    rw [heightOfFields]
    rcases List.mem_cons.mp h with heq | hrest
    · cases heq
      exact Nat.le_max_left ..
    · exact Nat.le_trans (ih hrest) (Nat.le_max_right ..)

theorem listOf?_map {items : List α} (h : ∀ a ∈ items, decode (encode a) = some a) :
    DataNode.listOf? decode (.array (items.map encode)) = some items := by
  change (items.map encode).mapM decode = some items
  induction items with
  | nil => rfl
  | cons first rest ih =>
    obtain ⟨hfirst, hrest⟩ := List.forall_mem_cons.mp h
    simp [List.mapM_cons, hfirst, ih hrest]

theorem decodeFields?_map {entries : List (String × α)}
    (h : ∀ entry ∈ entries, decode (encode entry.2) = some entry.2) :
    decodeFields? decode (entries.map fun (key, value) => (key, encode value)) = some entries := by
  induction entries with
  | nil => rfl
  | cons first rest ih =>
    obtain ⟨hfirst, hrest⟩ := List.forall_mem_cons.mp h
    simp [decodeFields?, hfirst, ih hrest]

theorem forall_of_decodeFields? {fields : List (String × Json)} {entries : List (String × α)}
    (h : ∀ j a, decode j = some a → ok a) (hfields : decodeFields? decode fields = some entries) :
    ∀ entry ∈ entries, ok entry.2 := by
  induction fields generalizing entries with
  | nil =>
    cases hfields
    simp
  | cons first rest ih =>
    unfold decodeFields? at hfields
    split at hfields
    next a others ha hothers =>
      cases hfields
      exact List.forall_mem_cons.mpr ⟨h _ a ha, ih hothers⟩
    next => cases hfields

theorem mapOf?_ofMap {map : SortedMap α}
    (h : map.Ordered fun a => decode (encode a) = some a) :
    mapOf? decode (ofMap encode map) = some map := by
  rw [ofMap, mapOf?, decodeFields?_map h.values, Option.map_some, SortedMap.ofList_entries h.sorted]

theorem ordered_of_mapOf? {j : Json} {map : SortedMap α} (h : ∀ j a, decode j = some a → ok a)
    (hmap : mapOf? decode j = some map) : map.Ordered ok := by
  unfold mapOf? at hmap
  split at hmap
  next fields =>
    obtain ⟨entries, hentries, rfl⟩ := Option.map_eq_some_iff.mp hmap
    refine ⟨SortedMap.sorted_ofList entries, fun entry hentry => ?_⟩
    exact forall_of_decodeFields? h hentries entry (SortedMap.mem_entries_ofList hentry)
  next => cases hmap

end Json

namespace DataNode

variable {ν α : Type} [DataNode ν] {decode : ν → Option α} {ok : α → Prop}

theorem forall_of_listOf? {node : ν} {items : List α}
    (h : ∀ node a, decode node = some a → ok a) (hitems : listOf? decode node = some items) :
    ∀ a ∈ items, ok a := by
  have aux : ∀ (nodes : List ν) (items : List α), nodes.mapM decode = some items →
      ∀ a ∈ items, ok a := by
    intro nodes
    induction nodes with
    | nil =>
      intro items hnodes
      cases hnodes
      simp
    | cons first rest ih =>
      intro items hnodes
      simp only [List.mapM_cons, Option.bind_eq_bind, Option.bind_eq_some_iff] at hnodes
      obtain ⟨a, ha, others, hothers, heq⟩ := hnodes
      cases heq
      exact List.forall_mem_cons.mpr ⟨h first a ha, ih others hothers⟩
  unfold listOf? at hitems
  split at hitems
  next nodes _ => exact aux nodes items hitems
  next => cases hitems

theorem of_optional? {node : ν} {value : Option α} (h : ∀ node a, decode node = some a → ok a)
    (hvalue : optional? decode node = some value) : ∀ a ∈ value, ok a := by
  unfold optional? at hvalue
  split at hvalue
  · cases hvalue
  · cases hvalue
    simp
  next inner _ =>
    obtain ⟨a, ha, rfl⟩ := Option.map_eq_some_iff.mp hvalue
    simpa using h inner a ha

end DataNode

namespace Record

variable {α : Type} {encode : α → Json} {decode : Json → Option α} {ok : α → Prop}
  {name : String}

section Places

variable {places : List (String × Option Json)} (hplaces : (places.map Prod.fst).Nodup)

include hplaces

theorem get?_recordOf : (Json.recordOf places).get? name = (places.lookup name).join :=
  Json.lookup_fieldsOf hplaces name

theorem required?_recordOf {j : Json} {a : α} (hplace : places.lookup name = some (some j))
    (h : decode j = some a) :
    (Json.recordOf places).required? name decode = some a := by
  simp [required?, get?_recordOf hplaces, hplace, h]

/-- Nothing that can be read is written as null, so an optional field keeps its value. -/
theorem optional?_recordOf {value : Option α}
    (hplace : places.lookup name = some (value.map encode)) (hnull : decode .null = none)
    (h : ∀ a ∈ value, decode (encode a) = some a) :
    (Json.recordOf places).optional? name decode = some value := by
  unfold optional?
  rw [get?_recordOf hplaces, hplace]
  cases value with
  | none => rfl
  | some a =>
    have hread := h a rfl
    have hpresent : Json.presence? (encode a) = some (some (encode a)) := by
      cases hencode : encode a with
      | null => simp [hencode, hnull] at hread
      | bool | number | string | unpairedSurrogate | array | object => rfl
    change DataNode.optional? decode (encode a) = _
    simp only [DataNode.optional?, DataNode.presence?, hpresent, hread, Option.map_some]

/-- A field that is written is read, and one that is left out has its default. -/
theorem withDefault?_of_written {j : Json} {a value : α}
    (hplace : places.lookup name = some (some j)) (h : decode j = some a) :
    (Json.recordOf places).withDefault? name value decode = some a := by
  unfold withDefault?
  rw [get?_recordOf hplaces, hplace]
  exact h

theorem withDefault?_of_omitted {value : α} (hplace : places.lookup name = some none) :
    (Json.recordOf places).withDefault? name value decode = some value := by
  unfold withDefault?
  rw [get?_recordOf hplaces, hplace]
  rfl

theorem trailing?_recordOf {value : Option α}
    (hplace : places.lookup name = some (value.map encode)) (hnull : decode .null = none)
    (h : ∀ a ∈ value, decode (encode a) = some a) :
    (Json.recordOf places).trailing? name decode = some value := by
  have hoptional := optional?_recordOf hplaces hplace hnull h
  unfold optional? at hoptional
  unfold trailing? withDefault?
  rw [get?_recordOf hplaces, hplace] at hoptional ⊢
  cases value with
  | none => rfl
  | some a => exact hoptional

end Places

section Fields

variable {ν : Type} {r : Record ν} {read : ν → Option α}
  (h : ∀ node a, read node = some a → ok a)

include h

theorem of_required? {a : α} (hfield : r.required? name read = some a) : ok a := by
  unfold required? at hfield
  split at hfield
  next node _ => exact h node a hfield
  next => cases hfield

theorem of_optional? [DataNode ν] {value : Option α} (hfield : r.optional? name read = some value) :
    ∀ a ∈ value, ok a := by
  unfold optional? at hfield
  split at hfield
  · exact DataNode.of_optional? h hfield
  · split at hfield
    · cases hfield
    · cases hfield
      simp

theorem of_withDefault? {a value : α} (hvalue : ok value)
    (hfield : r.withDefault? name value read = some a) : ok a := by
  unfold withDefault? at hfield
  split at hfield
  next node _ => exact h node a hfield
  next =>
    cases hfield
    exact hvalue

end Fields

end Record

end RestContract
