import Mathlib.Data.List.Induction
import Mathlib.Data.List.Nodup
import RestContract.Proofs.Catalogs

/-!
The order of a catalog. A definition is inserted where its name was first mentioned, in
place of any definition that stood there. So a catalog built from a list has each name of
the list once, in the order of first mention, and under each name the last definition given
for it. Its own definitions lead to the same catalog again, slots included.
-/
namespace RestContract.TypeCatalog

variable {c : TypeCatalog} {d : TypeDefinition} {given : List TypeDefinition}

def names (c : TypeCatalog) : List String := c.definitions.map TypeDefinition.name

theorem ofList_concat (given : List TypeDefinition) (d : TypeDefinition) :
    ofList (given ++ [d]) = (ofList given).insert d := by
  rw [ofList, List.foldl_append, List.foldl_cons, List.foldl_nil, ofList]

theorem nodup_names (c : TypeCatalog) : c.names.Nodup := by
  rw [List.nodup_iff_getElem?_ne_getElem?]
  intro i j hlt hj heq
  have hname : c.names[j]? = some c.names[j] := List.getElem?_eq_getElem hj
  have hslot : c.slots.lookup c.names[j] = some j :=
    (c.indexed _ j).mpr (by rw [← List.getElem?_map]; exact hname)
  have hslot' : c.slots.lookup c.names[j] = some i :=
    (c.indexed _ i).mpr (by rw [← List.getElem?_map]; exact heq.trans hname)
  rw [hslot] at hslot'
  cases hslot'
  exact Nat.lt_irrefl _ hlt

/-- A definition of a known name changes no name. -/
theorem names_insert (c : TypeCatalog) (d : TypeDefinition) :
    (c.insert d).names = if d.name ∈ c.names then c.names else c.names ++ [d.name] := by
  unfold names
  rw [definitions_insert]
  by_cases hknown : d.name ∈ c.definitions.map TypeDefinition.name
  · rw [if_pos hknown, if_pos hknown, List.map_map]
    refine List.map_congr_left fun e _ => ?_
    by_cases hname : e.name = d.name
    · simp [hname]
    · simp [hname]
  · rw [if_neg hknown, if_neg hknown, List.map_append]
    rfl

/-- Each name stands once, in the order of first mention. -/
theorem names_ofList (given : List TypeDefinition) :
    (ofList given).names = (given.map TypeDefinition.name).eraseDups := by
  induction given using List.reverseRecOn with
  | nil => rfl
  | append_singleton given d ih =>
    rw [ofList_concat, names_insert, ih, List.map_append, List.map_cons,
      List.map_nil, eraseDups_concat]
    simp only [List.mem_eraseDups]

/-- The definition of a name is the last one given for it. -/
theorem last_of_mem_ofList (h : d ∈ (ofList given).definitions) :
    given.findRev? (fun e => e.name == d.name) = some d := by
  induction given using List.reverseRecOn with
  | nil => cases h
  | append_singleton given last ih =>
    rw [ofList_concat, definitions_insert] at h
    rw [List.findRev?_eq_find?_reverse, List.reverse_concat, List.find?_cons,
      ← List.findRev?_eq_find?_reverse]
    by_cases hname : last.name = d.name
    · -- Every definition that has the name of the last is the last.
      have heq : d = last := by
        split at h
        · obtain ⟨e, -, he⟩ := List.mem_map.mp h
          split at he
          · exact he.symm
          next hother => exact absurd (he ▸ hname.symm) hother
        next hnew =>
          rcases List.mem_append.mp h with hold | hlast
          · exact absurd (hname ▸ List.mem_map_of_mem hold) hnew
          · exact List.mem_singleton.mp hlast
      simp [heq]
    · have hold : d ∈ (ofList given).definitions := by
        split at h
        · obtain ⟨e, he, hchanged⟩ := List.mem_map.mp h
          split at hchanged
          · exact absurd (congrArg TypeDefinition.name hchanged) hname
          · exact hchanged ▸ he
        · rcases List.mem_append.mp h with hold | hlast
          · exact hold
          · exact absurd (congrArg TypeDefinition.name (List.mem_singleton.mp hlast).symm) hname
      have hne : (last.name == d.name) = false := beq_false_of_ne hname
      rw [hne]
      exact ih hold

/-- The slots are the positions of the names. -/
theorem slots_ofList (given : List TypeDefinition) :
    (ofList given).slots = (ofList given).names.zipIdx := by
  induction given using List.reverseRecOn with
  | nil => rfl
  | append_singleton given d ih =>
    rw [ofList_concat, slots_insert, names_insert, ih, ← names]
    split
    · rfl
    · rw [List.zipIdx_append, names, List.length_map]
      simp

/-- Definitions of distinct names stay as they are given. -/
theorem definitions_ofList_of_nodup (h : (given.map TypeDefinition.name).Nodup) :
    (ofList given).definitions = given := by
  induction given using List.reverseRecOn with
  | nil => rfl
  | append_singleton given d ih =>
    rw [List.map_append, List.nodup_append] at h
    obtain ⟨hgiven, -, hnew⟩ := h
    have hfresh : d.name ∉ (ofList given).definitions.map TypeDefinition.name := by
      rw [ih hgiven]
      intro hmem
      exact hnew d.name hmem d.name (by simp) rfl
    rw [ofList_concat, definitions_insert, if_neg hfresh, ih hgiven]

theorem ofList_definitions_ofList (given : List TypeDefinition) :
    ofList (ofList given).definitions = ofList given := by
  have hdefinitions : (ofList (ofList given).definitions).definitions =
      (ofList given).definitions :=
    definitions_ofList_of_nodup (ofList given).nodup_names
  have hslots : (ofList (ofList given).definitions).slots = (ofList given).slots := by
    rw [slots_ofList, slots_ofList, names, hdefinitions, names]
  generalize ofList (ofList given).definitions = again at hdefinitions hslots
  cases again
  cases hdefinitions
  cases hslots
  rfl

/-- A name that was given leads to the last definition given for it. -/
theorem lookup?_ofList (h : d ∈ given) :
    (ofList given).lookup? d.name = given.findRev? fun e => e.name == d.name := by
  have hmem : d.name ∈ (ofList given).names := by
    rw [names_ofList, List.mem_eraseDups]
    exact List.mem_map_of_mem h
  obtain ⟨e, he, hname⟩ := List.mem_map.mp hmem
  rw [← hname, lookup?_name he, last_of_mem_ofList he]

end RestContract.TypeCatalog
