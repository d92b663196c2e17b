/-!
JSON values. An object keeps its fields in the order written, repeated keys
included. A number keeps its digits. A string whose escapes name half of a
surrogate pair denotes no text, so it is a value of its own, and so is an object
that has such a string for a key: each can be passed over, but not read.
-/
namespace RestContract

inductive Json where
  | null
  | bool (value : Bool)
  | number (digits : String)
  | string (text : String)
  | unpairedSurrogate
  | array (items : List Json)
  | object (fields : List (String × Json))

namespace Json

instance : Inhabited Json := ⟨null⟩

def ofNat (n : Nat) : Json := number (toString n)

def ofTexts (texts : List String) : Json := array (texts.map string)

mutual

/-- The number of levels of the value. -/
def height : Json → Nat
  | array items => heightOfItems items + 1
  | object fields => heightOfFields fields + 1
  | _ => 1

def heightOfItems : List Json → Nat
  | [] => 0
  | item :: rest => max (height item) (heightOfItems rest)

def heightOfFields : List (String × Json) → Nat
  | [] => 0
  | (_, value) :: rest => max (height value) (heightOfFields rest)

end

end Json

end RestContract
