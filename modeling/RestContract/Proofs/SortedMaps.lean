import RestContract.Data.SortedMap

/-!
Laws of maps from names to values. A lookup after an insertion or a change sees
exactly that insertion or change, whatever the order of the entries; the entries
of a map built from distinct names are those given, in some order, and a map built
by insertion has its names in order.
-/
namespace RestContract

/-- One more element stands at the end, unless it stands in the list already. -/
theorem eraseDups_concat {α : Type} [DecidableEq α] (items : List α) (a : α) :
    (items ++ [a]).eraseDups =
      if a ∈ items then items.eraseDups else items.eraseDups ++ [a] := by
  rw [List.eraseDups_append]
  by_cases h : a ∈ items
  · have hnone : [a].removeAll items = [] := by
      simpa only [List.removeAll, List.filter_eq_nil_iff] using fun b hb => by
        simp [List.mem_singleton.mp hb, h]
    rw [hnone, if_pos h, List.eraseDups_nil, List.append_nil]
  · have hall : [a].removeAll items = [a] := by
      simpa only [List.removeAll, List.filter_eq_self] using fun b hb => by
        simp [List.mem_singleton.mp hb, h]
    rw [hall, if_neg h]
    rfl

namespace SortedMap

variable {α β : Type}

theorem get?_mapValues (f : α → β) (map : SortedMap α) (name : String) :
    (map.mapValues f).get? name = (map.get? name).map f := by
  obtain ⟨entries⟩ := map
  change List.lookup name (entries.map _) = _
  induction entries with
  | nil => rfl
  | cons entry rest ih =>
    obtain ⟨key, value⟩ := entry
    simp only [get?, List.map_cons, lookup_cons_ite] at ih ⊢
    by_cases hkey : name = key
    · simp [hkey]
    · simpa [hkey] using ih

theorem mem_entries_of_get? {map : SortedMap α} {name : String} {value : α}
    (h : map.get? name = some value) : (name, value) ∈ map.entries := by
  obtain ⟨before, after, heq, -⟩ := List.lookup_eq_some_iff.mp h
  simp [heq]

theorem get?_of_mem_entries {map : SortedMap α} {name : String} {value : α}
    (hkeys : map.keys.Nodup) (h : (name, value) ∈ map.entries) : map.get? name = some value := by
  obtain ⟨entries⟩ := map
  change entries.lookup name = some value
  induction entries with
  | nil => cases h
  | cons first rest ih =>
    obtain ⟨hfirst, hrest⟩ := List.nodup_cons.mp hkeys
    rcases List.mem_cons.mp h with rfl | htail
    · simp
    · have hne : name ≠ first.1 := by
        rintro rfl
        exact hfirst (List.mem_map.mpr ⟨_, htail, rfl⟩)
      rw [lookup_cons_ite, if_neg hne, ih hrest htail]

theorem mem_keys_insert (map : SortedMap α) (name other : String) (value : α) :
    other ∈ (map.insert name value).keys ↔ other = name ∨ other ∈ map.keys := by
  simp only [← contains_iff_mem_keys, contains, get?_insert]
  by_cases h : other = name <;> simp [h]

private theorem mem_insertEntry {name : String} {value : α} {entries : List (String × α)}
    {entry : String × α} (h : entry ∈ insertEntry name value entries) :
    entry = (name, value) ∨ entry ∈ entries := by
  induction entries with
  | nil => simpa [insertEntry] using h
  | cons first rest ih =>
    obtain ⟨key, old⟩ := first
    simp only [insertEntry] at h
    split at h
    · simpa using h
    · split at h
      · rcases List.mem_cons.mp h with h | h
        · exact .inl h
        · exact .inr (List.mem_cons_of_mem _ h)
      · rcases List.mem_cons.mp h with h | h
        · exact .inr (h ▸ List.mem_cons_self ..)
        · exact (ih h).imp_right (List.mem_cons_of_mem _)

theorem mem_entries_insert {map : SortedMap α} {name : String} {value : α}
    {entry : String × α} (h : entry ∈ (map.insert name value).entries) :
    entry = (name, value) ∨ entry ∈ map.entries :=
  mem_insertEntry h

theorem mem_keys_foldl_insert (map : SortedMap α) (entries : List (String × α)) (name : String) :
    name ∈ (entries.foldl (fun m e => m.insert e.1 e.2) map).keys ↔
      name ∈ map.keys ∨ name ∈ entries.map Prod.fst := by
  induction entries generalizing map with
  | nil => simp
  | cons entry rest ih =>
    simp only [List.foldl_cons, ih, mem_keys_insert, List.map_cons, List.mem_cons]
    rw [or_comm (a := name = entry.1), or_assoc]

theorem mem_keys_ofList (entries : List (String × α)) (name : String) :
    name ∈ (ofList entries).keys ↔ name ∈ entries.map Prod.fst :=
  (mem_keys_foldl_insert empty entries name).trans (by simp [keys, empty])

theorem mem_entries_ofList {entries : List (String × α)} {entry : String × α}
    (h : entry ∈ (ofList entries).entries) : entry ∈ entries := by
  have aux : ∀ (rest : List (String × α)) (map : SortedMap α),
      entry ∈ (rest.foldl (fun m e => m.insert e.1 e.2) map).entries →
        entry ∈ rest ∨ entry ∈ map.entries := by
    intro rest
    induction rest with
    | nil => exact fun map hmem => .inr hmem
    | cons first rest ih =>
      intro map hmem
      rcases ih _ hmem with hrest | hmap
      · exact .inl (List.mem_cons_of_mem _ hrest)
      · rcases mem_entries_insert hmap with rfl | hold
        · exact .inl (List.mem_cons_self ..)
        · exact .inr hold
  rcases aux entries empty h with hmem | hempty
  · exact hmem
  · cases hempty

/-- A map built from distinct names has the given entries, in some order. -/
theorem entries_ofList_perm {entries : List (String × α)}
    (h : (entries.map Prod.fst).Nodup) : (ofList entries).entries.Perm entries := by
  have aux : ∀ (rest : List (String × α)) (map : SortedMap α), (rest.map Prod.fst).Nodup →
      (∀ entry ∈ rest, entry.1 ∉ map.keys) →
      (rest.foldl (fun m e => m.insert e.1 e.2) map).entries.Perm (map.entries ++ rest) := by
    intro rest
    induction rest with
    | nil => intro map _ _; simp
    | cons first rest ih =>
      intro map hnodup hfresh
      obtain ⟨hfirst, hrest⟩ := List.nodup_cons.mp hnodup
      have hnew : first.1 ∉ map.keys := hfresh first (List.mem_cons_self ..)
      have hstep := ih (map.insert first.1 first.2) hrest (by
        intro entry hentry hmem
        rcases (mem_keys_insert ..).mp hmem with heq | hold
        · exact hfirst (heq ▸ List.mem_map_of_mem hentry)
        · exact hfresh entry (List.mem_cons_of_mem _ hentry) hold)
      have hfront := (map.entries_insert_perm first.2 hnew).append_right rest
      exact (hstep.trans hfront).trans List.perm_middle.symm
  exact aux entries empty h (by simp [keys, empty])

private theorem pairwise_insertEntry {name : String} {value : α} {entries : List (String × α)}
    (h : (entries.map Prod.fst).Pairwise (· < ·)) :
    ((insertEntry name value entries).map Prod.fst).Pairwise (· < ·) := by
  induction entries with
  | nil => simp [insertEntry]
  | cons first rest ih =>
    obtain ⟨key, old⟩ := first
    obtain ⟨hfirst, hrest⟩ := List.pairwise_cons.mp h
    by_cases hlt : name < key
    · rw [insertEntry, if_pos hlt]
      refine List.pairwise_cons.mpr ⟨?_, h⟩
      intro other hother
      rcases List.mem_cons.mp hother with rfl | htail
      · exact hlt
      · exact String.lt_trans hlt (hfirst other htail)
    by_cases hname : name = key
    · subst key
      rw [insertEntry, if_neg hlt, if_pos rfl]
      exact List.pairwise_cons.mpr ⟨hfirst, hrest⟩
    · rw [insertEntry, if_neg hlt, if_neg hname]
      refine List.pairwise_cons.mpr ⟨?_, ih hrest⟩
      intro other hother
      obtain ⟨entry, hentry, rfl⟩ := List.mem_map.mp hother
      rcases mem_insertEntry hentry with rfl | hold
      · exact Std.lt_of_le_of_ne (String.not_lt.mp hlt) (Ne.symm hname)
      · exact hfirst entry.1 (List.mem_map_of_mem hold)

theorem sorted_empty : (empty : SortedMap α).Sorted := List.Pairwise.nil

theorem sorted_insert {map : SortedMap α} (h : map.Sorted) (name : String) (value : α) :
    (map.insert name value).Sorted :=
  pairwise_insertEntry h

theorem sorted_ofList (entries : List (String × α)) : (ofList entries).Sorted := by
  have aux : ∀ (rest : List (String × α)) (map : SortedMap α), map.Sorted →
      (rest.foldl (fun m e => m.insert e.1 e.2) map).Sorted := by
    intro rest
    induction rest with
    | nil => exact fun _ hmap => hmap
    | cons first rest ih => exact fun map hmap => ih _ (sorted_insert hmap first.1 first.2)
  exact aux entries empty sorted_empty

private theorem insertEntry_last {name : String} (value : α) {entries : List (String × α)}
    (h : ∀ key ∈ entries.map Prod.fst, key < name) :
    insertEntry name value entries = entries ++ [(name, value)] := by
  induction entries with
  | nil => rfl
  | cons first rest ih =>
    obtain ⟨key, old⟩ := first
    obtain ⟨hkey, hrest⟩ := List.forall_mem_cons.mp h
    have hne : name ≠ key := by
      rintro rfl
      exact String.lt_irrefl name hkey
    rw [insertEntry, if_neg (String.lt_asymm hkey), if_neg hne, ih hrest, List.cons_append]

theorem ofList_entries {map : SortedMap α} (h : map.Sorted) : ofList map.entries = map := by
  -- Each entry comes behind those inserted so far.
  have aux : ∀ rest done : List (String × α),
      ((done ++ rest).map Prod.fst).Pairwise (· < ·) →
      rest.foldl (fun m e => m.insert e.1 e.2) ⟨done⟩ = (⟨done ++ rest⟩ : SortedMap α) := by
    intro rest
    induction rest with
    | nil => simp
    | cons first rest ih =>
      intro done hsorted
      have hlast : ∀ key ∈ done.map Prod.fst, key < first.1 := by
        rw [List.map_append] at hsorted
        intro key hkey
        exact (List.pairwise_append.mp hsorted).2.2 key hkey first.1 (List.mem_cons_self ..)
      have hinsert : (⟨done⟩ : SortedMap α).insert first.1 first.2 = ⟨done ++ [first]⟩ := by
        rw [insert, insertEntry_last first.2 hlast]
      rw [List.foldl_cons, hinsert, ih (done ++ [first]) (by simpa using hsorted)]
      simp
  exact aux map.entries [] h

end SortedMap

end RestContract
