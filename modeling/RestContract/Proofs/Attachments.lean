import RestContract.Proofs.SchemaReferences

/-!
What attachments do to a schema. A plain object that takes a list of attachments
gains a required text property for each, the inherited parts in order, and a
discriminator; it stays a plain object and keeps all else. Any other schema is left
as it is.
-/
namespace RestContract

def Schema.propertyMap (s : Schema) : SortedMap SchemaRef := s.properties.getD .empty

def Schema.objectOf (properties : SortedMap SchemaRef) : Schema :=
  { type := some .object, properties := some properties }

theorem Registry.covers_objectOf {r : Registry} {properties : List (String × SchemaRef)}
    (h : ∀ entry ∈ properties, r.Covers entry.2) :
    r.Covers (.inline (.objectOf (.ofList properties))) := by
  rw [covers_inline_iff]
  intro part hpart
  have hentries : ∃ name, (name, part) ∈ (SortedMap.ofList properties).entries := by
    simpa [Schema.parts, Schema.objectOf] using hpart
  obtain ⟨name, hentry⟩ := hentries
  exact h _ (SortedMap.mem_entries_ofList hentry)

theorem Schema.foldl_insertProperty (s : Schema) (map : SortedMap SchemaRef)
    (properties : List (String × SchemaRef)) (h : s.properties = some map) :
    properties.foldl (fun s p => s.insertProperty p.1 p.2) s =
      { s with properties := some (properties.foldl (fun m e => m.insert e.1 e.2) map) } := by
  induction properties generalizing s map with
  | nil =>
    cases s
    cases h
    rfl
  | cons first rest ih =>
    rw [List.foldl_cons, ih _ (map.insert first.1 first.2) (by simp [insertProperty, h])]
    rfl

namespace Attachment

variable {a : Attachment} {s : Schema} {attachments : List Attachment}

def applyAll (attachments : List Attachment) (s : Schema) : Schema :=
  attachments.foldl (fun s a => a.apply s) s

@[simp] theorem applyAll_nil : applyAll [] s = s := rfl

@[simp] theorem applyAll_cons : applyAll (a :: attachments) s = applyAll attachments (a.apply s) :=
  rfl

theorem applyAll_append (first second : List Attachment) :
    applyAll (first ++ second) s = applyAll second (applyAll first s) :=
  List.foldl_append

theorem apply_of_plain (h : s.isPlainObject = true) :
    a.apply s =
      { (s.insertProperty a.property (.inline Schema.string)).require a.property with
        discriminator := a.discriminatorAfter s
        allOf := a.allOfAfter s } := if_pos h

theorem apply_of_not_plain (h : s.isPlainObject = false) : a.apply s = s := by
  simp [apply, h]

theorem isPlainObject_apply : (a.apply s).isPlainObject = s.isPlainObject := by
  cases h : s.isPlainObject with
  | false => rw [apply_of_not_plain h, h]
  | true =>
    rw [apply_of_plain h]
    exact h

theorem propertyMap_apply (h : s.isPlainObject = true) :
    (a.apply s).propertyMap = s.propertyMap.insert a.property (.inline Schema.string) := by
  rw [apply_of_plain h]
  rfl

theorem required_apply (h : s.isPlainObject = true) :
    (a.apply s).required =
      some (if (s.required.getD []).contains a.property then s.required.getD []
        else s.required.getD [] ++ [a.property]) := by
  rw [apply_of_plain h]
  rfl

theorem mem_required_apply (h : s.isPlainObject = true) (name : String) :
    name ∈ (a.apply s).required.getD [] ↔ name ∈ s.required.getD [] ∨ name = a.property := by
  rw [required_apply h, Option.getD_some]
  by_cases hmem : (s.required.getD []).contains a.property = true
  · rw [if_pos hmem]
    constructor
    · exact .inl
    · rintro (hname | rfl)
      · exact hname
      · exact List.contains_iff_mem.mp hmem
  · rw [if_neg hmem, List.mem_append, List.mem_singleton]

theorem nodup_required_apply (h : s.isPlainObject = true) (hn : (s.required.getD []).Nodup) :
    ((a.apply s).required.getD []).Nodup := by
  rw [required_apply h, Option.getD_some]
  by_cases hmem : (s.required.getD []).contains a.property = true
  · rw [if_pos hmem]
    exact hn
  · rw [if_neg hmem]
    refine List.nodup_append.mpr ⟨hn, by simp, ?_⟩
    intro name hname other hother
    rw [List.mem_singleton.mp hother]
    rintro rfl
    exact hmem (List.contains_iff_mem.mpr hname)

theorem required_apply_isSome (h : s.isPlainObject = true) :
    (a.apply s).required.isSome = true := by
  rw [required_apply h, Option.isSome_some]

theorem allOf_apply (h : s.isPlainObject = true) :
    (a.apply s).allOf.getD [] = s.allOf.getD [] ++ a.inherited.toList.map .inline := by
  rw [apply_of_plain h]
  cases hinherited : a.inherited <;> simp [allOfAfter, hinherited]

theorem allOf_apply_eq_none (h : s.isPlainObject = true) :
    (a.apply s).allOf = none ↔ s.allOf = none ∧ a.inherited = none := by
  rw [apply_of_plain h]
  cases hinherited : a.inherited <;> simp [allOfAfter, hinherited]

theorem discriminator_apply (h : s.isPlainObject = true) :
    (a.apply s).discriminator = a.discriminatorAfter s := by
  rw [apply_of_plain h]

theorem discriminator_apply_isSome (h : s.isPlainObject = true) :
    (a.apply s).discriminator.isSome = true := by
  rw [discriminator_apply h]
  cases hd : s.discriminator <;> cases hdirect : a.direct <;>
    simp [discriminatorAfter, hd, hdirect]

theorem applyAll_of_not_plain (h : s.isPlainObject = false) : applyAll attachments s = s := by
  induction attachments with
  | nil => rfl
  | cons a rest ih => rw [applyAll_cons, apply_of_not_plain h, ih]

theorem isPlainObject_applyAll : (applyAll attachments s).isPlainObject = s.isPlainObject := by
  induction attachments generalizing s with
  | nil => rfl
  | cons a rest ih => rw [applyAll_cons, ih, isPlainObject_apply]

theorem mem_keys_applyAll (h : s.isPlainObject = true) (name : String) :
    name ∈ (applyAll attachments s).propertyMap.keys ↔
      name ∈ s.propertyMap.keys ∨ ∃ a ∈ attachments, name = a.property := by
  induction attachments generalizing s with
  | nil => simp
  | cons a rest ih =>
    rw [applyAll_cons, ih (isPlainObject_apply.trans h), propertyMap_apply h,
      SortedMap.mem_keys_insert]
    simp only [List.mem_cons, exists_eq_or_imp]
    rw [or_comm (a := name = a.property), or_assoc]

/-- A text property stays one: later attachments only write text properties. -/
theorem get?_applyAll_of_string (h : s.isPlainObject = true) {name : String}
    (hname : s.propertyMap.get? name = some (.inline Schema.string)) :
    (applyAll attachments s).propertyMap.get? name = some (.inline Schema.string) := by
  induction attachments generalizing s with
  | nil => exact hname
  | cons a rest ih =>
    refine ih (isPlainObject_apply.trans h) ?_
    rw [propertyMap_apply h, SortedMap.get?_insert]
    split
    · rfl
    · exact hname

theorem get?_applyAll_property (h : s.isPlainObject = true) (ha : a ∈ attachments) :
    (applyAll attachments s).propertyMap.get? a.property = some (.inline Schema.string) := by
  induction attachments generalizing s with
  | nil => cases ha
  | cons first rest ih =>
    have hplain : (first.apply s).isPlainObject = true := isPlainObject_apply.trans h
    rcases List.mem_cons.mp ha with rfl | hrest
    · refine get?_applyAll_of_string hplain ?_
      rw [propertyMap_apply h, SortedMap.get?_insert_self]
    · exact ih hplain hrest

theorem get?_applyAll_of_ne {name : String} (h : s.isPlainObject = true)
    (hname : ∀ a ∈ attachments, a.property ≠ name) :
    (applyAll attachments s).propertyMap.get? name = s.propertyMap.get? name := by
  induction attachments generalizing s with
  | nil => rfl
  | cons a rest ih =>
    obtain ⟨hfirst, hrest⟩ := List.forall_mem_cons.mp hname
    rw [applyAll_cons, ih (isPlainObject_apply.trans h) hrest, propertyMap_apply h,
      SortedMap.get?_insert, if_neg hfirst.symm]

theorem mem_required_applyAll (h : s.isPlainObject = true) (name : String) :
    name ∈ (applyAll attachments s).required.getD [] ↔
      name ∈ s.required.getD [] ∨ ∃ a ∈ attachments, name = a.property := by
  induction attachments generalizing s with
  | nil => simp
  | cons a rest ih =>
    rw [applyAll_cons, ih (isPlainObject_apply.trans h), mem_required_apply h]
    simp only [List.mem_cons, exists_eq_or_imp, or_assoc]

/-- Required properties are only ever added, behind those that are there. -/
theorem required_prefix_applyAll (h : s.isPlainObject = true) :
    s.required.getD [] <+: (applyAll attachments s).required.getD [] := by
  induction attachments generalizing s with
  | nil => exact List.prefix_rfl
  | cons a rest ih =>
    have hfirst : s.required.getD [] <+: (a.apply s).required.getD [] := by
      rw [required_apply h, Option.getD_some]
      split
      · exact List.prefix_rfl
      · exact List.prefix_append ..
    exact hfirst.trans (ih (isPlainObject_apply.trans h))

theorem nodup_required_applyAll (h : s.isPlainObject = true)
    (hn : (s.required.getD []).Nodup) :
    ((applyAll attachments s).required.getD []).Nodup := by
  induction attachments generalizing s with
  | nil => exact hn
  | cons a rest ih => exact ih (isPlainObject_apply.trans h) (nodup_required_apply h hn)

theorem allOf_applyAll (h : s.isPlainObject = true) :
    (applyAll attachments s).allOf.getD [] =
      s.allOf.getD [] ++ (attachments.filterMap Attachment.inherited).map .inline := by
  induction attachments generalizing s with
  | nil => simp
  | cons a rest ih =>
    rw [applyAll_cons, ih (isPlainObject_apply.trans h), allOf_apply h]
    cases hinherited : a.inherited <;> simp [hinherited]

theorem allOf_applyAll_eq_none (h : s.isPlainObject = true) :
    (applyAll attachments s).allOf = none ↔
      s.allOf = none ∧ attachments.filterMap Attachment.inherited = [] := by
  induction attachments generalizing s with
  | nil => simp
  | cons a rest ih =>
    rw [applyAll_cons, ih (isPlainObject_apply.trans h), allOf_apply_eq_none h, and_assoc]
    cases hinherited : a.inherited <;> simp [hinherited]

/-- A field that every attachment sets is set after a non-empty list of them, and
kept by an empty one. -/
private theorem isSome_applyAll {α : Type} (field : Schema → Option α)
    (hset : ∀ (a : Attachment) (s : Schema), s.isPlainObject = true →
      (field (a.apply s)).isSome = true)
    (h : s.isPlainObject = true) :
    (field (applyAll attachments s)).isSome = true ↔
      (field s).isSome = true ∨ attachments ≠ [] := by
  induction attachments generalizing s with
  | nil => simp
  | cons a rest ih =>
    rw [applyAll_cons, ih (isPlainObject_apply.trans h)]
    simp [hset a s h]

theorem required_applyAll_isSome (h : s.isPlainObject = true) :
    (applyAll attachments s).required.isSome = true ↔
      s.required.isSome = true ∨ attachments ≠ [] :=
  isSome_applyAll Schema.required (fun _ _ => required_apply_isSome) h

theorem discriminator_applyAll_isSome (h : s.isPlainObject = true) :
    (applyAll attachments s).discriminator.isSome = true ↔
      s.discriminator.isSome = true ∨ attachments ≠ [] :=
  isSome_applyAll Schema.discriminator (fun _ _ => discriminator_apply_isSome) h

/-- The last direct base sets the discriminator. Without one, it stays what it was, and a
missing one is filled by the first base. -/
theorem discriminator_applyAll (h : s.isPlainObject = true) :
    (applyAll attachments s).discriminator =
      (((attachments.filter Attachment.direct).getLast?.map (⟨·.property⟩)).or
        s.discriminator).or (attachments.head?.map (⟨·.property⟩)) := by
  induction attachments generalizing s with
  | nil => simp
  | cons a rest ih =>
    rw [applyAll_cons, ih (isPlainObject_apply.trans h), discriminator_apply h]
    cases hdirect : a.direct <;> cases hd : s.discriminator <;>
      cases hlast : (rest.filter Attachment.direct).getLast? <;>
        simp [discriminatorAfter, hdirect, hd, hlast, List.getLast?_cons]

theorem oneOf_applyAll : (applyAll attachments s).oneOf = s.oneOf := by
  induction attachments generalizing s with
  | nil => rfl
  | cons a rest ih =>
    rw [applyAll_cons, ih]
    cases hplain : s.isPlainObject with
    | false => rw [apply_of_not_plain hplain]
    | true =>
      rw [apply_of_plain hplain]
      rfl

theorem covers_apply {r : Registry} (hs : r.Covers (.inline s))
    (ha : ∀ members, a.inherited = some members → r.Covers (.inline members)) :
    r.Covers (.inline (a.apply s)) := by
  cases hplain : s.isPlainObject with
  | false => rwa [apply_of_not_plain hplain]
  | true =>
    have hstring : r.Covers (.inline Schema.string) := Registry.covers_of_parts_nil rfl
    have hinsert : r.Covers (.inline (s.insertProperty a.property (.inline Schema.string))) :=
      Registry.covers_insertProperty hs hstring
    rw [Registry.covers_inline_iff] at hs hinsert ⊢
    intro part hpart
    by_cases hall : part ∈ (a.apply s).allOf.getD []
    · rw [allOf_apply hplain, List.mem_append] at hall
      rcases hall with hold | hnew
      · exact hs part (by simp [Schema.parts, hold])
      · obtain ⟨members, hmembers, rfl⟩ := List.mem_map.mp hnew
        exact ha members (Option.mem_toList.mp hmembers)
    · rw [apply_of_plain hplain] at hpart hall
      refine hinsert part ?_
      simp only [Schema.parts, Schema.require, Schema.insertProperty, List.mem_append] at hpart ⊢
      rcases hpart with (hrest | hpart) | hone
      · exact .inl (.inl hrest)
      · exact absurd hpart hall
      · exact .inr hone

theorem covers_applyAll {r : Registry} (hs : r.Covers (.inline s))
    (ha : ∀ a ∈ attachments, ∀ members, a.inherited = some members →
      r.Covers (.inline members)) :
    r.Covers (.inline (applyAll attachments s)) := by
  induction attachments generalizing s with
  | nil => exact hs
  | cons a rest ih =>
    refine ih ?_ fun b hb => ha b (List.mem_cons_of_mem _ hb)
    exact covers_apply hs (ha a (List.mem_cons_self ..))

end Attachment

end RestContract
