import Mathlib.Data.List.Basic
import RestContract.Proofs.CatalogOrder

/-!
A catalog as the outcome of its insertions. Whatever was inserted, each name has one
definition and one slot, names stand in the order in which they were first given, and under
each name stands what was given last. So the answers of a catalog can be told from what was
given: a lookup finds the last definition of the name or, failing that, the only current one
of that simple name, and the subtypes of a name are those whose current definitions mention
it.
-/
namespace RestContract.TypeCatalog

variable {c : TypeCatalog} {d : TypeDefinition} {given : List TypeDefinition} {name : String}

def lastGiven? (given : List TypeDefinition) (name : String) : Option TypeDefinition :=
  given.findRev? fun d => d.name == name

def Current (given : List TypeDefinition) (d : TypeDefinition) : Prop :=
  lastGiven? given d.name = some d

def GivenBefore (given : List TypeDefinition) (a b : String) : Prop :=
  (given.map TypeDefinition.name).idxOf a < (given.map TypeDefinition.name).idxOf b

/-- What a catalog holds and answers after definitions were given in this order. -/
structure Represents (given : List TypeDefinition) (c : TypeCatalog) : Prop where
  distinct : c.names.Nodup
  slot_iff : ∀ name slot, c.slots.lookup name = some slot ↔ c.names[slot]? = some name
  ordered : c.names.Pairwise (GivenBefore given)
  current_iff : ∀ d, d ∈ c.definitions ↔ Current given d
  lookup_given : ∀ name d, lastGiven? given name = some d → c.lookup? name = some d
  /-- A simple name that was never given stands for the only current definition that has it,
  and for nothing if there is none or more than one. -/
  lookup_simple : ∀ name, lastGiven? given name = none → '.' ∉ name.toList → ∀ d,
    c.lookup? name = some d ↔ (Current given d ∧ d.simpleName = name) ∧
      ∀ e, Current given e → e.simpleName = name → e = d
  lookup_unknown : ∀ name, lastGiven? given name = none → '.' ∈ name.toList →
    c.lookup? name = none
  subtypes_distinct : ∀ base, (c.subtypesOf base).Nodup
  subtypes_ordered : ∀ base, (c.subtypesOf base).Pairwise (GivenBefore given)
  subtypes_iff : ∀ base name, name ∈ c.subtypesOf base ↔
    ∃ d, lastGiven? given name = some d ∧ base ∈ d.supertypes

theorem name_of_lastGiven? (h : lastGiven? given name = some d) : d.name = name := by
  rw [lastGiven?, List.findRev?_eq_find?_reverse] at h
  simpa using List.find?_some h

theorem lastGiven?_eq_none : lastGiven? given name = none ↔
    name ∉ given.map TypeDefinition.name := by
  rw [lastGiven?, List.findRev?_eq_find?_reverse, List.find?_eq_none]
  simp

/-- Elements without their repetitions stand in the order of their first positions. -/
theorem pairwise_idxOf_eraseDups {α : Type} [DecidableEq α] (items : List α) :
    items.eraseDups.Pairwise fun a b => items.idxOf a < items.idxOf b := by
  induction items using List.reverseRecOn with
  | nil => exact .nil
  | append_singleton items last ih =>
    -- An element at the end moves no first position of those before it.
    have hbefore : items.eraseDups.Pairwise fun a b =>
        (items ++ [last]).idxOf a < (items ++ [last]).idxOf b := by
      refine ih.imp_of_mem fun {a b} ha hb hlt => ?_
      rwa [List.idxOf_append_of_mem (List.mem_eraseDups.mp ha),
        List.idxOf_append_of_mem (List.mem_eraseDups.mp hb)]
    rw [eraseDups_concat]
    split
    · exact hbefore
    next hnew =>
      refine List.pairwise_append.mpr ⟨hbefore, List.pairwise_singleton .., ?_⟩
      intro a ha b hb
      have hmem : a ∈ items := List.mem_eraseDups.mp ha
      rw [List.mem_singleton.mp hb, List.idxOf_append_of_mem hmem,
        List.idxOf_append_of_notMem hnew]
      have hlt := List.idxOf_lt_length_of_mem hmem
      omega

theorem pairwise_names_ofList (given : List TypeDefinition) :
    (ofList given).names.Pairwise (GivenBefore given) := by
  rw [names_ofList]
  exact pairwise_idxOf_eraseDups _

theorem mem_of_lastGiven? (h : lastGiven? given name = some d) :
    d ∈ (ofList given).definitions := by
  have hmem : name ∈ (ofList given).names := by
    rw [names_ofList, List.mem_eraseDups]
    by_contra hnone
    rw [lastGiven?_eq_none.mpr hnone] at h
    cases h
  obtain ⟨e, he, rfl⟩ := List.mem_map.mp hmem
  have hlast : lastGiven? given e.name = some e := last_of_mem_ofList he
  rw [hlast] at h
  exact Option.some.inj h ▸ he

theorem mem_ofList_iff : d ∈ (ofList given).definitions ↔ Current given d :=
  ⟨last_of_mem_ofList, mem_of_lastGiven?⟩

/-- The definitions of one simple name are told apart by their names. -/
theorem lookupSimple?_eq_some :
    c.lookupSimple? name = some d ↔ (d ∈ c.definitions ∧ d.simpleName = name) ∧
      ∀ e ∈ c.definitions, e.simpleName = name → e = d := by
  have hmem : ∀ e, e ∈ c.definitions.filter (·.simpleName == name) ↔
      e ∈ c.definitions ∧ e.simpleName = name := by
    intro e
    simp [List.mem_filter]
  have hnodup : (c.definitions.filter (·.simpleName == name)).Nodup :=
    (List.Nodup.of_map _ c.nodup_names).filter _
  unfold lookupSimple?
  rw [← hmem d]
  simp only [← and_imp, ← hmem]
  generalize c.definitions.filter (·.simpleName == name) = found at hnodup
  rcases found with _ | ⟨first, _ | ⟨second, rest⟩⟩
  · simp
  · simp [eq_comm]
  · constructor
    · intro h
      cases h
    · rintro ⟨-, hall⟩
      have hsame : first = second := (hall first (by simp)).trans (hall second (by simp)).symm
      simp [hsame] at hnodup

theorem lookup?_of_never_given (h : lastGiven? given name = none) :
    (ofList given).lookup? name =
      if Naming.isQualified name then none else (ofList given).lookupSimple? name := by
  have hnone : (ofList given).slots.lookup name = none := by
    rw [(ofList given).slot_iff, ← names, names_ofList, List.mem_eraseDups]
    exact lastGiven?_eq_none.mp h
  simp only [lookup?, hnone]

theorem sublist_subtypesOf (c : TypeCatalog) (base : String) :
    (c.subtypesOf base).Sublist c.names :=
  List.filter_sublist.map _

theorem mem_subtypesOf_ofList {base : String} : name ∈ (ofList given).subtypesOf base ↔
    ∃ d, lastGiven? given name = some d ∧ base ∈ d.supertypes := by
  constructor
  · intro h
    obtain ⟨d, hd, rfl⟩ := List.mem_map.mp h
    obtain ⟨hdeclared, hsupertype⟩ := List.mem_filter.mp hd
    exact ⟨d, mem_ofList_iff.mp hdeclared, by simpa using hsupertype⟩
  · rintro ⟨d, hlast, hsupertype⟩
    have hd : d ∈ (ofList given).definitions.filter (·.supertypes.contains base) :=
      List.mem_filter.mpr ⟨mem_of_lastGiven? hlast, by simpa using hsupertype⟩
    exact name_of_lastGiven? hlast ▸ List.mem_map_of_mem hd

/-- Any row of insertions leads from the empty catalog to one that represents what was
inserted: its names, their slots, their order and their definitions, and with these the
lookups and the subtypes that it answers with. -/
theorem ofList_represents (given : List TypeDefinition) : Represents given (ofList given) where
  distinct := (ofList given).nodup_names
  slot_iff name slot := by
    rw [(ofList given).indexed name slot, names, List.getElem?_map]
  ordered := pairwise_names_ofList given
  current_iff d := mem_ofList_iff
  lookup_given name d h := by
    rw [← name_of_lastGiven? h]
    exact lookup?_name (mem_of_lastGiven? h)
  lookup_simple name h hsimple d := by
    have hbare : Naming.isQualified name = false := by simpa [Naming.isQualified] using hsimple
    rw [lookup?_of_never_given h, hbare]
    simp only [← mem_ofList_iff]
    exact lookupSimple?_eq_some
  lookup_unknown name h hdotted := by
    have hqualified : Naming.isQualified name = true := by
      simpa [Naming.isQualified] using hdotted
    rw [lookup?_of_never_given h, if_pos hqualified]
  subtypes_distinct base :=
    (ofList given).nodup_names.sublist (sublist_subtypesOf _ base)
  subtypes_ordered base := (pairwise_names_ofList given).sublist (sublist_subtypesOf _ base)
  subtypes_iff base name := mem_subtypesOf_ofList

/-- A definition given again keeps its place, and is no subtype any more if it does not say so. -/
example :
    let c := ofList [{ name := "a.Cat", supertypes := ["a.Pet"] },
      { name := "b.Cat", supertypes := ["a.Pet"] }, { name := "a.Cat", kind := .interface }]
    c.names = ["a.Cat", "b.Cat"] ∧ c.subtypesOf "a.Pet" = ["b.Cat"] ∧
      (c.lookup? "a.Cat").map TypeDefinition.kind = some .interface ∧ c.lookup? "Cat" = none := by
  decide +kernel

end RestContract.TypeCatalog
