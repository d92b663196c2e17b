import RestContract.Proofs.SortedMaps
import RestContract.Source.Catalog

/-!
Catalogs built by insertion. Since slots and positions correspond, each name has one
definition, and looking up the name of a definition finds that definition.
-/
namespace RestContract.TypeCatalog

variable {c : TypeCatalog} {d d' : TypeDefinition}

theorem lookup?_name (hd : d ∈ c.definitions) :
    c.lookup? d.name = some d := by
  obtain ⟨slot, hslot⟩ := List.mem_iff_getElem?.mp hd
  have hlookup : c.slots.lookup d.name = some slot := (c.indexed d.name slot).mpr (by simp [hslot])
  simp [lookup?, hlookup, hslot]

theorem eq_of_name_eq (hd : d ∈ c.definitions) (hd' : d' ∈ c.definitions)
    (h : d.name = d'.name) : d = d' := by
  have hfirst := lookup?_name hd
  rw [h, lookup?_name hd'] at hfirst
  exact (Option.some.inj hfirst).symm

/-- Whatever a lookup finds is declared. -/
theorem mem_of_lookup? {name : String} (h : c.lookup? name = some d) : d ∈ c.definitions := by
  unfold lookup? at h
  split at h
  next slot hslot => exact List.mem_of_getElem? h
  next =>
    split at h
    · cases h
    · unfold lookupSimple? at h
      split at h
      next only hfilter =>
        cases h
        have hmem : d ∈ c.definitions.filter (·.simpleName == name) := by simp [hfilter]
        exact (List.mem_filter.mp hmem).1
      next => cases h

theorem slot_iff (c : TypeCatalog) (name : String) :
    c.slots.lookup name = none ↔ name ∉ c.definitions.map TypeDefinition.name := by
  constructor
  · intro hnone hmem
    obtain ⟨d, hd, rfl⟩ := List.mem_map.mp hmem
    obtain ⟨slot, hslot⟩ := List.mem_iff_getElem?.mp hd
    rw [(c.indexed d.name slot).mpr (by simp [hslot])] at hnone
    cases hnone
  · intro hmem
    cases hlookup : c.slots.lookup name with
    | none => rfl
    | some slot =>
      have hname := (c.indexed name slot).mp hlookup
      obtain ⟨d, hd, rfl⟩ := Option.map_eq_some_iff.mp hname
      exact absurd (List.mem_map_of_mem (List.mem_of_getElem? hd)) hmem

/-- A definition takes the place of the one of its name, or comes last. -/
theorem definitions_insert (c : TypeCatalog) (d : TypeDefinition) :
    (c.insert d).definitions =
      if d.name ∈ c.definitions.map TypeDefinition.name then
        c.definitions.map fun e => if e.name = d.name then d else e
      else c.definitions ++ [d] := by
  unfold TypeCatalog.insert
  split
  next slot hslot =>
    obtain ⟨old, hold, hname⟩ := Option.map_eq_some_iff.mp ((c.indexed d.name slot).mp hslot)
    rw [if_pos (List.mem_map.mpr ⟨old, List.mem_of_getElem? hold, hname⟩)]
    refine List.ext_getElem? fun i => ?_
    rw [List.getElem?_set, List.getElem?_map]
    have hat := (c.indexed d.name i).symm
    rw [hslot] at hat
    cases hget : c.definitions[i]? with
    | none =>
      have hpast : ¬ i < c.definitions.length := Nat.not_lt.mpr (List.getElem?_eq_none_iff.mp hget)
      by_cases hi : slot = i
      · simp [hi, hpast]
      · simp [hi]
    | some e =>
      have hlen : i < c.definitions.length := (List.getElem?_eq_some_iff.mp hget).1
      simp only [hget, Option.map_some, Option.some.injEq] at hat ⊢
      by_cases hi : slot = i
      · simp [hi, hlen, hat.mpr hi]
      · have hne : e.name ≠ d.name := fun h => hi (hat.mp h)
        simp [hi, hne]
  next hnone => rw [if_neg ((c.slot_iff d.name).mp hnone)]

theorem slots_insert (c : TypeCatalog) (d : TypeDefinition) :
    (c.insert d).slots =
      if d.name ∈ c.definitions.map TypeDefinition.name then c.slots
      else c.slots ++ [(d.name, c.definitions.length)] := by
  unfold TypeCatalog.insert
  split
  next slot hslot =>
    obtain ⟨old, hold, hname⟩ := Option.map_eq_some_iff.mp ((c.indexed d.name slot).mp hslot)
    rw [if_pos (List.mem_map.mpr ⟨old, List.mem_of_getElem? hold, hname⟩)]
  next hnone => rw [if_neg ((c.slot_iff d.name).mp hnone)]

/-- A catalog has the definitions of its list only. -/
theorem mem_of_mem_ofList {definitions : List TypeDefinition}
    (h : d ∈ (ofList definitions).definitions) : d ∈ definitions := by
  have aux : ∀ (rest : List TypeDefinition) (c : TypeCatalog),
      d ∈ (rest.foldl TypeCatalog.insert c).definitions → d ∈ c.definitions ∨ d ∈ rest := by
    intro rest
    induction rest with
    | nil => exact fun _ h => .inl h
    | cons first rest ih =>
      intro c h
      rcases ih (c.insert first) h with hinsert | hrest
      · have hcases : d ∈ c.definitions ∨ d = first := by
          unfold TypeCatalog.insert at hinsert
          split at hinsert
          · exact List.mem_or_eq_of_mem_set hinsert
          · simpa using hinsert
        rcases hcases with hold | rfl
        · exact .inl hold
        · exact .inr (List.mem_cons_self ..)
      · exact .inr (List.mem_cons_of_mem _ hrest)
  rcases aux definitions empty h with hnone | hmem
  · simp [empty] at hnone
  · exact hmem

/-- A lookup finds the definition of the name, else by simple name. -/
theorem lookup?_eq (c : TypeCatalog) (name : String) :
    c.lookup? name = (c.definitions.find? fun d => d.name == name).or
      (if Naming.isQualified name then none else c.lookupSimple? name) := by
  unfold lookup?
  cases hfind : c.definitions.find? fun d => d.name == name with
  | none =>
    have hmem : name ∉ c.definitions.map TypeDefinition.name := by
      intro hmem
      obtain ⟨d, hd, hname⟩ := List.mem_map.mp hmem
      exact List.find?_eq_none.mp hfind d hd (by simpa using hname)
    rw [(c.slot_iff name).mpr hmem]
    rfl
  | some d =>
    have hd : d ∈ c.definitions := List.mem_of_find?_eq_some hfind
    have hname : d.name = name := by simpa using List.find?_some hfind
    obtain ⟨slot, hslot⟩ := List.mem_iff_getElem?.mp hd
    rw [(c.indexed name slot).mpr (by simp [hslot, hname])]
    exact hslot

end RestContract.TypeCatalog
