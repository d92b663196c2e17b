import RestContract.CompileError
import RestContract.Log
import RestContract.Options
import RestContract.Schema.Basic

/-!
The registry of component schemas. A name is claimed for an origin before the
schema of the origin is built, so that recursive and repeated mentions refer to
the name. Each origin owns one name and each name has one owner; a second origin
that asks for a taken name is settled by the collision policy.
-/
namespace RestContract

/-- Where a component comes from: a type, by its full name, or a schema made up
for a signature. -/
inductive Origin where
  | type (name : String)
  | synthetic (signature : String)
  deriving DecidableEq, Repr

def Origin.display : Origin → String
  | type name => name
  | synthetic signature => s!"synthetic {signature}"

/-- The owner of a name and its schema, once that is built. -/
structure Entry where
  origin : Origin
  schema : Option Schema

inductive Claim where
  /-- The origin owns the name already. -/
  | existing (name : String)
  /-- The name was taken for the origin and waits for its schema. -/
  | new (name : String)
  deriving DecidableEq, Repr

structure Registry where
  policy : CollisionPolicy
  entries : SortedMap Entry
  names : List (Origin × String)
  /-- Names and owners correspond: an origin has a name exactly if the entry of that name is
  its own. -/
  owned : ∀ origin name, names.lookup origin = some name ↔
    ∃ entry, entries.get? name = some entry ∧ entry.origin = origin
  /-- Each name has one entry. -/
  distinct : entries.keys.Nodup

namespace Registry

def empty (policy : CollisionPolicy) : Registry where
  policy := policy
  entries := .empty
  names := []
  owned := by simp
  distinct := .nil

def nameOf? (r : Registry) (origin : Origin) : Option String := r.names.lookup origin

def contains (r : Registry) (name : String) : Bool := r.entries.contains name

def size (r : Registry) : Nat := r.entries.size

def isEmpty (r : Registry) : Bool := r.entries.isEmpty

def numbered (base : String) (k : Nat) : String := s!"{base}_{k}"

/-- The first free numbered name from `k` on, giving up after so many trials. -/
def firstFree (r : Registry) (base : String) : Nat → Nat → String
  | 0, k => numbered base k
  | trials + 1, k =>
      if r.contains (numbered base k) then firstFree r base trials (k + 1) else numbered base k

/-- The name that an origin gets when the preferred one is taken. As many trials as
there are entries always meet a free name. -/
def alternativeName (r : Registry) (preferred : String) : Origin → String
  | .type qualified =>
      if r.contains qualified then r.firstFree qualified r.size 2 else qualified
  | .synthetic _ => r.firstFree preferred r.size 2

theorem owned_insert (r : Registry) {name : String} {origin : Origin}
    (hname : r.contains name = false) (horigin : r.nameOf? origin = none) (other : Origin)
    (key : String) :
    ((origin, name) :: r.names).lookup other = some key ↔
      ∃ entry, (r.entries.insert name ⟨origin, none⟩).get? key = some entry ∧
        entry.origin = other := by
  have hnone : r.entries.get? name = none := by
    simpa [contains, SortedMap.contains] using hname
  rw [lookup_cons_ite, SortedMap.get?_insert]
  by_cases hkey : key = name
  · subst key
    by_cases hother : other = origin
    · simp [hother]
    · simp only [hother, if_false, if_true, r.owned other name, hnone]
      simp [Ne.symm hother]
  · by_cases hother : other = origin
    · subst other
      simp only [hkey, if_false, if_true, Option.some.injEq]
      constructor
      · intro h
        exact absurd h.symm hkey
      · intro h
        rw [← r.owned origin key] at h
        cases horigin.symm.trans h
    · simpa [hkey, hother] using r.owned other key

theorem distinct_insert (r : Registry) {name : String} (hname : r.contains name = false)
    (entry : Entry) : (r.entries.insert name entry).keys.Nodup := by
  have hfresh : name ∉ r.entries.keys := by
    rw [← SortedMap.contains_iff_mem_keys]
    simpa [contains] using hname
  have hkeys := (r.entries.entries_insert_perm entry hfresh).map Prod.fst
  exact hkeys.nodup_iff.mpr (List.nodup_cons.mpr ⟨hfresh, r.distinct⟩)

/-- Take a name for an origin. A name that is taken stays with its owner, and an origin that
owns a name keeps to that. -/
def enroll (r : Registry) (name : String) (origin : Origin) : Registry :=
  if h : r.contains name = false ∧ r.nameOf? origin = none then
    { r with
      entries := r.entries.insert name ⟨origin, none⟩
      names := (origin, name) :: r.names
      owned := r.owned_insert h.1 h.2
      distinct := r.distinct_insert h.1 _ }
  else r

def claim (r : Registry) (preferred : String) (origin : Origin) :
    Except CompileError (Claim × Registry) :=
  match r.nameOf? origin with
  | some name => .ok (.existing name, r)
  | none =>
      match r.entries.get? preferred with
      | none => .ok (.new preferred, r.enroll preferred origin)
      | some entry =>
          match r.policy with
          | .error =>
              .error (.schemaNameCollision preferred entry.origin.display origin.display)
          | .qualify =>
              let name := r.alternativeName preferred origin
              .ok (.new name, r.enroll name origin)

/-- Taking another name than the preferred one is worth a note. -/
def renameEvent? (preferred : String) (origin : Origin) : Claim → Option LogEvent
  | .existing _ => none
  | .new name =>
      if name = preferred then none
      else
        some ⟨.info, "schema name already taken, registering under a qualified name",
          [("schema", .text preferred), ("renamed", .text name),
            ("origin", .text origin.display)]⟩

theorem owned_modify (r : Registry) {change : Entry → Entry}
    (h : ∀ entry, (change entry).origin = entry.origin) (name : String) (origin : Origin)
    (key : String) :
    r.names.lookup origin = some key ↔
      ∃ entry, (r.entries.modify name change).get? key = some entry ∧ entry.origin = origin := by
  rw [r.owned origin key, SortedMap.get?_modify]
  by_cases hkey : key = name
  · cases r.entries.get? key <;> simp [hkey, h]
  · simp [hkey]

/-- Change the entry of a name, but not its owner. -/
def modify (r : Registry) (name : String) (change : Entry → Entry)
    (h : ∀ entry, (change entry).origin = entry.origin) : Registry :=
  { r with
    entries := r.entries.modify name change
    owned := r.owned_modify h name
    distinct := (r.entries.keys_modify name change).symm ▸ r.distinct }

/-- Store the schema of a claimed name. -/
def define (r : Registry) (name : String) (schema : Schema) : Registry :=
  r.modify name (fun entry => { entry with schema := some schema }) fun _ => rfl

/-- The schema of a name, if it is built. -/
def get? (r : Registry) (name : String) : Option Schema :=
  match r.entries.get? name with
  | some entry => entry.schema
  | none => none

/-- Change the schema of a name, if it is built. -/
def edit (r : Registry) (name : String) (change : Schema → Schema) : Registry :=
  r.modify name (fun entry => { entry with schema := entry.schema.map change }) fun _ => rfl

/-- All schemas by name; a name that was never given one counts as an empty object. -/
def schemas (r : Registry) : SortedMap Schema :=
  r.entries.mapValues fun entry => entry.schema.getD Schema.object

end Registry

end RestContract
