import RestContract.Resolution.Pass

/-!
The descendants of a base type, breadth first. The walk takes names from a queue;
the first one not met before is a descendant, and its own subtypes join the queue.
The names not met so far are carried along, so each round shortens that list.
-/
namespace RestContract

/-- The names other than `name`. -/
def without (name : String) (names : List String) : List String := names.filter (· != name)

theorem length_without_lt {name : String} {names : List String} (h : name ∈ names) :
    (without name names).length < names.length :=
  List.length_filter_lt_length_iff_exists.2 ⟨name, h, by simp⟩

/-- The queue from its first unmet name on. -/
def skipMet (unmet queue : List String) : List String := queue.dropWhile (!unmet.contains ·)

theorem mem_of_skipMet_eq_cons {unmet queue rest : List String} {name : String}
    (h : skipMet unmet queue = name :: rest) : name ∈ unmet := by
  have hhead := List.head?_dropWhile_not (fun n => !unmet.contains n) queue
  rw [skipMet] at h
  rw [h] at hhead
  simpa using hhead

def descendantsFrom (catalog : TypeCatalog) (unmet queue : List String) (p : Pass) :
    List String × Pass :=
  match _h : skipMet unmet queue with
  | [] => ([], p)
  | name :: rest =>
      let (subtypes, p) := p.subtypesOf catalog name
      let (found, p) := descendantsFrom catalog (without name unmet) (rest ++ subtypes) p
      (name :: found, p)
termination_by unmet.length
decreasing_by exact length_without_lt (mem_of_skipMet_eq_cons _h)

/-- Every type below the base except the base itself, each once, nearest first. -/
def descendants (catalog : TypeCatalog) (base : String) (subtypes : List String) :
    Resolving (List String) :=
  modifyGet (descendantsFrom catalog
    (without base (catalog.definitions.map TypeDefinition.name)) subtypes)

end RestContract
