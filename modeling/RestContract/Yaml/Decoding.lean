import RestContract.Data.Node
import RestContract.Yaml.Anchors
import RestContract.Yaml.Numeral

/-!
What YAML nodes mean to a decoder. Any scalar is a text. A plain scalar without
text stands for an empty list and for a record without fields, and a plain null word
for an absent value. An alternative is named by a scalar or by a local tag.
-/
namespace RestContract.Yaml

/-- A local tag without its exclamation mark. -/
def localTag? (tag : Option String) : Option String :=
  match tag.map String.toList with
  | some ('!' :: name) => some (String.ofList name)
  | _ => none

def flagOf? (text : String) : Option Bool :=
  if trueWords.contains text then some true
  else if falseWords.contains text then some false
  else none

namespace View

def isEmptyPlain (style : ScalarStyle) (text : String) : Bool := style == .plain && text.isEmpty

def text? (v : View) : Option String :=
  match v.target with
  | .scalar _ _ text => some text
  | _ => none

/-- A truth value is plain, or a literal block with the tag of truth values. -/
def flag? (v : View) : Option Bool :=
  match v.target with
  | .scalar p style text =>
      if style == .plain || (style == .literal && p.tag == some (coreTag "bool")) then flagOf? text
      else none
  | _ => none

def items? (v : View) : Option (List View) :=
  match v.target with
  | .sequence _ items => some (items.map v.child)
  | .scalar _ style text => if isEmptyPlain style text then some [] else none
  | _ => none

def choice? (v : View) : Option String :=
  match v.target with
  | .scalar p style text =>
      match localTag? p.tag with
      | some name =>
          if style == .plain && (text.isEmpty || nullWords.contains text) then some name else none
      | none => some text
  | _ => none

/-- Only plain scalars can be absent. With the tag of null they must be a null word,
with any other tag they are present. -/
def presence? (v : View) : Option (Option View) :=
  match v.target with
  | .scalar p .plain text =>
      match p.tag with
      | some tag =>
          if tag != coreTag "null" then some (some v)
          else if nullWords.contains text then some none
          else none
      | none => if text.isEmpty || nullWords.contains text then some none else some (some v)
  | _ => some (some v)

def fields? (v : View) : List (Node Nat × Node Nat) → Option (List (String × View))
  | [] => some []
  | (key, value) :: entries =>
      match (v.child key).text?, fields? v entries with
      | some name, some fields => some ((name, v.child value) :: fields)
      | _, _ => none

/-- All keys are scalars, and no declared one is repeated. -/
def record? (names : List String) (v : View) : Option (Record View) :=
  match v.target with
  | .mapping _ entries =>
      match v.fields? entries with
      | none => none
      | some fields =>
          if keysDistinct names (fields.map (·.1)) then some ⟨fields, false⟩ else none
  | .scalar _ style text => if isEmptyPlain style text then some ⟨[], false⟩ else none
  | _ => none

end View

instance : DataNode View where
  text? := View.text?
  flag? := View.flag?
  items? := View.items?
  choice? := View.choice?
  presence? := View.presence?
  record? := View.record?

end RestContract.Yaml
