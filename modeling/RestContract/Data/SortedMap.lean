/-!
Maps from names to values, kept as a list in increasing order of the names. Names
are compared character by character by code point, which is also the order of
their bytes.
-/
namespace RestContract

/-- A lookup goes past the entries of other keys. -/
theorem lookup_cons_ite {κ α : Type} [DecidableEq κ] (key k : κ) (value : α)
    (rest : List (κ × α)) :
    ((key, value) :: rest).lookup k = if k = key then some value else rest.lookup k := by
  by_cases h : k = key
  · simp [h]
  · have hne : (k == key) = false := by simpa using h
    simp [List.lookup_cons, hne, h]

/-- A map, as the list of its entries. That these are in order is said apart, by `Sorted`:
a schema holds maps of schemas, and a type cannot come again inside maps that carry a proof
about their own entries. -/
structure SortedMap (α : Type) where
  entries : List (String × α)
  deriving DecidableEq

namespace SortedMap

variable {α β : Type}

def empty : SortedMap α := ⟨[]⟩

instance : Inhabited (SortedMap α) := ⟨empty⟩

def insertEntry (name : String) (value : α) : List (String × α) → List (String × α)
  | [] => [(name, value)]
  | (key, old) :: rest =>
      if name < key then (name, value) :: (key, old) :: rest
      else if name = key then (name, value) :: rest
      else (key, old) :: insertEntry name value rest

/-- Add a value, in place of the one the name had. -/
def insert (map : SortedMap α) (name : String) (value : α) : SortedMap α :=
  ⟨insertEntry name value map.entries⟩

def ofList (entries : List (String × α)) : SortedMap α :=
  entries.foldl (fun map (name, value) => map.insert name value) empty

def get? (map : SortedMap α) (name : String) : Option α := map.entries.lookup name

def contains (map : SortedMap α) (name : String) : Bool := (map.get? name).isSome

def size (map : SortedMap α) : Nat := map.entries.length

def isEmpty (map : SortedMap α) : Bool := map.entries.isEmpty

def keys (map : SortedMap α) : List String := map.entries.map Prod.fst

/-- Change the value of a name, if it has one. -/
def modify (map : SortedMap α) (name : String) (change : α → α) : SortedMap α :=
  ⟨map.entries.map fun (key, value) => (key, if key = name then change value else value)⟩

def mapValues (f : α → β) (map : SortedMap α) : SortedMap β :=
  ⟨map.entries.map fun (key, value) => (key, f value)⟩

/-- The names stand in strictly increasing order. -/
def Sorted (map : SortedMap α) : Prop := map.keys.Pairwise (· < ·)

@[simp] theorem get?_empty (name : String) : (empty : SortedMap α).get? name = none := rfl

private theorem lookup_insertEntry (name other : String) (value : α)
    (entries : List (String × α)) :
    (insertEntry name value entries).lookup other =
      if other = name then some value else entries.lookup other := by
  induction entries with
  | nil => simp [insertEntry, lookup_cons_ite]
  | cons entry rest ih =>
    obtain ⟨key, old⟩ := entry
    by_cases hother : other = name
    · subst other
      by_cases hlt : name < key
      · simp [insertEntry, hlt]
      · by_cases hkey : name = key
        · simp [insertEntry, hkey]
        · simp [insertEntry, hlt, hkey, lookup_cons_ite, ih]
    · by_cases hlt : name < key
      · simp [insertEntry, hlt, lookup_cons_ite, hother]
      · by_cases hkey : name = key
        · subst key
          simp [insertEntry, lookup_cons_ite, hother]
        · simp [insertEntry, hlt, hkey, lookup_cons_ite, ih, hother]

theorem get?_insert (map : SortedMap α) (name other : String) (value : α) :
    (map.insert name value).get? other = if other = name then some value else map.get? other :=
  lookup_insertEntry name other value map.entries

@[simp] theorem get?_insert_self (map : SortedMap α) (name : String) (value : α) :
    (map.insert name value).get? name = some value := by simp [get?_insert]

theorem get?_modify (map : SortedMap α) (name other : String) (change : α → α) :
    (map.modify name change).get? other =
      if other = name then (map.get? other).map change else map.get? other := by
  obtain ⟨entries⟩ := map
  change List.lookup other (entries.map _) = _
  induction entries with
  | nil => simp [get?]
  | cons entry rest ih =>
    obtain ⟨key, value⟩ := entry
    simp only [get?, List.map_cons, lookup_cons_ite] at ih ⊢
    by_cases hkey : other = key
    · subst key
      by_cases hname : other = name <;> simp [hname]
    · simpa [hkey] using ih

theorem contains_iff_mem_keys (map : SortedMap α) (name : String) :
    map.contains name = true ↔ name ∈ map.keys := by
  simp only [contains, get?, keys, List.lookup_isSome_iff, List.mem_map]
  constructor
  · rintro ⟨entry, hmem, heq⟩
    exact ⟨entry, hmem, (beq_iff_eq.mp heq).symm⟩
  · rintro ⟨entry, hmem, rfl⟩
    exact ⟨entry, hmem, beq_self_eq_true _⟩

theorem keys_modify (map : SortedMap α) (name : String) (change : α → α) :
    (map.modify name change).keys = map.keys := by
  simp [keys, modify]

private theorem insertEntry_perm {name : String} (value : α) {entries : List (String × α)}
    (h : name ∉ entries.map Prod.fst) :
    (insertEntry name value entries).Perm ((name, value) :: entries) := by
  induction entries with
  | nil => exact .refl _
  | cons first rest ih =>
    obtain ⟨key, old⟩ := first
    simp only [List.map_cons, List.mem_cons, not_or] at h
    by_cases hlt : name < key
    · simp [insertEntry, hlt]
    · simp only [insertEntry, hlt, h.1, if_false]
      exact ((ih h.2).cons (key, old)).trans (.swap ..)

/-- A new name adds its entry and leaves the others. -/
theorem entries_insert_perm (map : SortedMap α) {name : String} (value : α)
    (h : name ∉ map.keys) :
    (map.insert name value).entries.Perm ((name, value) :: map.entries) :=
  insertEntry_perm value h

end SortedMap

end RestContract
