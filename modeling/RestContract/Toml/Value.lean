/-!
The values of a TOML text. Numbers and dates are left out: no option takes one, so
a text that holds one is refused. A table remembers how it came about, because that
decides whether it may still be extended.
-/
namespace RestContract.Toml

/-- How a table came about: on the way to another one, by its own header, by a
dotted key, or between braces. -/
inductive TableOrigin where
  | implied | header | dotted | inline
deriving DecidableEq, Repr

inductive Value where
  | text (value : String)
  | flag (value : Bool)
  | array (items : List Value)
  | table (origin : TableOrigin) (entries : List (String × Value))
  /-- The tables of a repeated header, of which the last is open. -/
  | tables (before : List Value) (last : List (String × Value))

abbrev Entries := List (String × Value)

def setEntry (key : String) (value : Value) : Entries → Entries
  | [] => [(key, value)]
  | (k, v) :: rest => if k == key then (key, value) :: rest else (k, v) :: setEntry key value rest

/-- Change the table behind a path, creating tables on the way. Tables between braces
are closed, and a dotted key does not reach into a table with a header. -/
def modifyAt? (dotted : Bool) (change : Entries → Option Entries) :
    List String → Entries → Option Entries
  | [], entries => change entries
  | key :: path, entries =>
      match entries.lookup key with
      | none =>
          (modifyAt? dotted change path []).map fun inner =>
            entries ++ [(key, .table (if dotted then .dotted else .implied) inner)]
      | some (.table origin inner) =>
          if origin == .inline || (dotted && origin == .header) then none
          else
            (modifyAt? dotted change path inner).map fun inner =>
              setEntry key (.table origin inner) entries
      | some (.tables before last) =>
          (modifyAt? dotted change path last).map fun last =>
            setEntry key (.tables before last) entries
      | some _ => none

/-- Give a new key its value. -/
def insertNew? (key : String) (value : Value) (entries : Entries) : Option Entries :=
  if (entries.lookup key).isSome then none else some (entries ++ [(key, value)])

/-- Open a table by its header; it may have been implied by another one. -/
def openTable? (key : String) (entries : Entries) : Option Entries :=
  match entries.lookup key with
  | none => some (entries ++ [(key, .table .header [])])
  | some (.table .implied inner) => some (setEntry key (.table .header inner) entries)
  | some _ => none

/-- Open one more table under a repeated header. -/
def openNextTable? (key : String) (entries : Entries) : Option Entries :=
  match entries.lookup key with
  | none => some (entries ++ [(key, .tables [] [])])
  | some (.tables before last) =>
      some (setEntry key (.tables (before ++ [.table .header last]) []) entries)
  | some _ => none

/-- A dotted key and its value, in the table behind a path. -/
def assign? (base : List String) (key : List String) (value : Value) (entries : Entries) :
    Option Entries :=
  match key.getLast? with
  | none => none
  | some last =>
      modifyAt? false (modifyAt? true (insertNew? last value) key.dropLast) base entries

end RestContract.Toml
