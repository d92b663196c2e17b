import RestContract.Proofs.SortedMaps
import RestContract.Registry

/-!
Laws of the registry. Since owners and names are in one-to-one correspondence, a claim
either finds the name of its origin or takes a free one, and the schema of an
origin is touched by nothing but a definition or an edit under its own name. The
search for a numbered name always ends at a free one: it tries one name more than
there are entries.
-/
namespace RestContract.Registry

variable {r : Registry} {name preferred : String} {origin other : Origin}

def schemaOf? (r : Registry) (origin : Origin) : Option Schema := (r.nameOf? origin).bind r.get?

theorem schemaOf?_of_nameOf? (h : r.nameOf? origin = some name) :
    r.schemaOf? origin = r.get? name := by simp [schemaOf?, h]

theorem schemaOf?_of_unknown (h : r.nameOf? origin = none) : r.schemaOf? origin = none := by
  simp [schemaOf?, h]

theorem nameOf?_of_schemaOf? {schema : Schema} (h : r.schemaOf? origin = some schema) :
    ∃ name, r.nameOf? origin = some name ∧ r.get? name = some schema :=
  Option.bind_eq_some_iff.mp h

theorem contains_eq_isSome : r.contains name = (r.entries.get? name).isSome := rfl

theorem get?_eq_bind : r.get? name = (r.entries.get? name).bind Entry.schema := by
  unfold get?
  cases r.entries.get? name <;> rfl

theorem nameOf?_inj (h : r.nameOf? origin = some name) (h' : r.nameOf? other = some name) :
    origin = other := by
  obtain ⟨entry, hentry, rfl⟩ := (r.owned origin name).mp h
  obtain ⟨entry', hentry', rfl⟩ := (r.owned other name).mp h'
  rw [hentry] at hentry'
  rw [Option.some.inj hentry']

theorem contains_iff : r.contains name = true ↔ ∃ origin, r.nameOf? origin = some name := by
  rw [contains_eq_isSome, Option.isSome_iff_exists]
  constructor
  · rintro ⟨entry, hentry⟩
    exact ⟨entry.origin, (r.owned entry.origin name).mpr ⟨entry, hentry, rfl⟩⟩
  · rintro ⟨origin, h⟩
    obtain ⟨entry, hentry, -⟩ := (r.owned origin name).mp h
    exact ⟨entry, hentry⟩

theorem contains_of_nameOf? (h : r.nameOf? origin = some name) : r.contains name = true :=
  contains_iff.mpr ⟨origin, h⟩

theorem policy_enroll : (r.enroll name origin).policy = r.policy := by
  unfold enroll
  split <;> rfl

section Enroll

variable (hname : r.contains name = false) (horigin : r.nameOf? origin = none)

include hname horigin

theorem nameOf?_enroll :
    (r.enroll name origin).nameOf? other =
      if other = origin then some name else r.nameOf? other := by
  rw [enroll, dif_pos ⟨hname, horigin⟩]
  exact lookup_cons_ite origin other name r.names

theorem nameOf?_enroll_self : (r.enroll name origin).nameOf? origin = some name := by
  rw [nameOf?_enroll hname horigin, if_pos rfl]

theorem get?_entries_enroll {key : String} :
    (r.enroll name origin).entries.get? key =
      if key = name then some ⟨origin, none⟩ else r.entries.get? key := by
  rw [enroll, dif_pos ⟨hname, horigin⟩]
  exact SortedMap.get?_insert ..

theorem get?_enroll {key : String} :
    (r.enroll name origin).get? key = if key = name then none else r.get? key := by
  rw [get?_eq_bind, get?_eq_bind, get?_entries_enroll hname horigin]
  split <;> rfl

theorem schemaOf?_enroll : (r.enroll name origin).schemaOf? other = r.schemaOf? other := by
  unfold schemaOf?
  rw [nameOf?_enroll hname horigin]
  by_cases hother : other = origin
  · subst other
    simp [horigin, get?_enroll hname horigin]
  · rw [if_neg hother]
    cases h : r.nameOf? other with
    | none => rfl
    | some key =>
      have hkey : key ≠ name := by
        rintro rfl
        rw [contains_of_nameOf? h] at hname
        cases hname
      simp [get?_enroll hname horigin, hkey]

end Enroll

theorem get?_define {key : String} {schema : Schema} :
    (r.define name schema).get? key =
      if key = name then (r.entries.get? key).map fun _ => schema else r.get? key := by
  simp only [get?_eq_bind, define, modify, SortedMap.get?_modify]
  by_cases hkey : key = name
  · cases r.entries.get? key <;> simp [hkey]
  · simp [hkey]

theorem get?_edit {key : String} {change : Schema → Schema} :
    (r.edit name change).get? key =
      if key = name then (r.get? key).map change else r.get? key := by
  simp only [get?_eq_bind, edit, modify, SortedMap.get?_modify]
  by_cases hkey : key = name
  · cases r.entries.get? key <;> simp [hkey]
  · simp [hkey]

@[simp] theorem nameOf?_define {schema : Schema} :
    (r.define name schema).nameOf? origin = r.nameOf? origin := rfl

@[simp] theorem nameOf?_edit {change : Schema → Schema} :
    (r.edit name change).nameOf? origin = r.nameOf? origin := rfl

/-- A change under one name leaves the schemas of the other origins alone. -/
private theorem schemaOf?_other {r' : Registry}
    (h : r.nameOf? origin = some name) (hnames : ∀ origin, r'.nameOf? origin = r.nameOf? origin)
    (hget : ∀ key, key ≠ name → r'.get? key = r.get? key) (hother : other ≠ origin) :
    r'.schemaOf? other = r.schemaOf? other := by
  unfold schemaOf?
  rw [hnames]
  cases hkey : r.nameOf? other with
  | none => rfl
  | some key =>
    refine hget key ?_
    rintro rfl
    exact hother (nameOf?_inj hkey h)

theorem schemaOf?_define (h : r.nameOf? origin = some name) (schema : Schema) :
    (r.define name schema).schemaOf? other =
      if other = origin then some schema else r.schemaOf? other := by
  by_cases hother : other = origin
  · subst other
    obtain ⟨entry, hentry, -⟩ := (r.owned origin name).mp h
    simp [schemaOf?, h, get?_define, hentry]
  · rw [if_neg hother]
    exact schemaOf?_other h (fun _ => rfl) (fun key hne => by rw [get?_define, if_neg hne]) hother

theorem schemaOf?_edit (h : r.nameOf? origin = some name) (change : Schema → Schema) :
    (r.edit name change).schemaOf? other =
      if other = origin then (r.schemaOf? other).map change else r.schemaOf? other := by
  by_cases hother : other = origin
  · subst other
    simp [schemaOf?, h, get?_edit]
  · rw [if_neg hother]
    exact schemaOf?_other h (fun _ => rfl) (fun key hne => by rw [get?_edit, if_neg hne]) hother

theorem numbered_inj {base : String} {j k : Nat} (h : numbered base j = numbered base k) :
    j = k := by
  have hchars := congrArg String.toList h
  simp only [numbered, toString, String.toList_append, List.append_cancel_left_eq,
    Nat.toList_repr] at hchars
  have hvalue := congrArg (Nat.ofDigitChars 10 · 0) hchars
  simpa using hvalue

/-- The search passes over taken names and stops at a free one, unless it gives up. -/
theorem firstFree_spec (r : Registry) (base : String) (trials k : Nat) :
    ∃ j, k ≤ j ∧ j ≤ k + trials ∧ r.firstFree base trials k = numbered base j ∧
      (∀ i, k ≤ i → i < j → r.contains (numbered base i) = true) ∧
      (j < k + trials → r.contains (numbered base j) = false) := by
  induction trials generalizing k with
  | zero =>
    refine ⟨k, Nat.le_refl k, Nat.le_refl k, rfl, ?_, ?_⟩
    · intro i hki hik
      omega
    · intro hk
      omega
  | succ trials ih =>
    by_cases hk : r.contains (numbered base k) = true
    · obtain ⟨j, hkj, hj, heq, htaken, hfree⟩ := ih (k + 1)
      refine ⟨j, by omega, by omega, by simpa [firstFree, hk] using heq, ?_, ?_⟩
      · intro i hki hij
        by_cases hik : i = k
        · simpa [hik] using hk
        · exact htaken i (by omega) hij
      · intro hlt
        exact hfree (by omega)
    · refine ⟨k, Nat.le_refl k, by omega, by simp [firstFree, hk], ?_, ?_⟩
      · intro i hki hik
        omega
      · intro _
        simpa using hk

/-- Not all of one name more than there are entries can be taken. -/
theorem exists_numbered_free (r : Registry) (base : String) (k : Nat) :
    ∃ i, i ≤ r.size ∧ r.contains (numbered base (k + i)) = false := by
  refine Classical.byContradiction fun hnone => ?_
  have htaken : ∀ i, i ≤ r.size → r.contains (numbered base (k + i)) = true := by
    intro i hi
    cases h : r.contains (numbered base (k + i)) with
    | true => rfl
    | false => exact absurd ⟨i, hi, h⟩ hnone
  -- The names tried are distinct, so they would be more keys than there are entries.
  let names := (List.range (r.size + 1)).map fun i => numbered base (k + i)
  have hnodup : names.Nodup := by
    refine List.Pairwise.map _ ?_ List.nodup_range
    intro i j hij heq
    exact hij (Nat.add_left_cancel (numbered_inj heq))
  have hsubset : names ⊆ r.entries.keys := by
    intro name hname
    obtain ⟨i, hi, rfl⟩ := List.mem_map.mp hname
    have hle : i ≤ r.size := Nat.le_of_lt_succ (List.mem_range.mp hi)
    exact (SortedMap.contains_iff_mem_keys _ _).mp (htaken i hle)
  have hlength := hnodup.length_le_of_subset hsubset
  simp only [names, List.length_map, List.length_range, SortedMap.keys] at hlength
  change r.size + 1 ≤ r.size at hlength
  omega

theorem firstFree_free (r : Registry) (base : String) (k : Nat) :
    r.contains (r.firstFree base r.size k) = false := by
  obtain ⟨j, hkj, hj, heq, htaken, hfree⟩ := r.firstFree_spec base r.size k
  rw [heq]
  by_cases hlt : j < k + r.size
  · exact hfree hlt
  · obtain ⟨i, hi, hnot⟩ := r.exists_numbered_free base k
    by_cases hij : k + i = j
    · rwa [hij] at hnot
    · rw [htaken (k + i) (by omega) (by omega)] at hnot
      cases hnot

theorem alternativeName_free (r : Registry) (preferred : String) (origin : Origin) :
    r.contains (r.alternativeName preferred origin) = false := by
  cases origin with
  | type qualified =>
    by_cases h : r.contains qualified = true
    · simpa [alternativeName, h] using r.firstFree_free qualified 2
    · simp [alternativeName, h]
  | synthetic signature => exact r.firstFree_free preferred 2

/-- What a claim can do: find the name of its origin, or take a free one. -/
theorem claim_cases {claim : Claim} {r' : Registry}
    (h : r.claim preferred origin = .ok (claim, r')) :
    (∃ name, claim = .existing name ∧ r.nameOf? origin = some name ∧ r' = r) ∨
    (∃ name, claim = .new name ∧ r.nameOf? origin = none ∧ r.contains name = false ∧
      r' = r.enroll name origin) := by
  unfold Registry.claim at h
  split at h
  next name hname =>
    cases h
    exact .inl ⟨name, rfl, hname, rfl⟩
  next hnone =>
    split at h
    next hfree =>
      cases h
      exact .inr ⟨preferred, rfl, hnone, by simp [contains_eq_isSome, hfree], rfl⟩
    next entry htaken =>
      split at h
      · cases h
      · cases h
        exact .inr ⟨_, rfl, hnone, r.alternativeName_free preferred origin, rfl⟩

end RestContract.Registry
