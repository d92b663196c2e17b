import RestContract.Yaml.BlockScalar
import RestContract.Yaml.FlowScalar
import RestContract.Yaml.Tag

/-!
From text to tokens. Outside flow collections the column of a token opens and
closes block collections. A key is recognised only by the colon after it, so each
place where a key may have started is remembered until the colon comes, the line
ends or the key gets too long; then the token that announces a key is put in front
of it.
-/
namespace RestContract.Yaml

/-- A place where a key may have started. It is required if nothing but a key can
stand there. -/
structure KeyPlace where
  required : Bool
  mark : Mark
  tokenCount : Nat

/-- The reader of tokens: the open block collections by their columns, innermost
first, and a possible key for this level and for each level around it, of which
the last is that outside flow collections. -/
structure Lexer where
  cursor : Cursor
  tokens : Array Token := #[]
  indents : List Nat := []
  key : Option KeyPlace := none
  outerKeys : List (Option KeyPlace) := []
  keyAllowed : Bool := true

namespace Lexer

def inFlow (x : Lexer) : Bool := !x.outerKeys.isEmpty

def emit (x : Lexer) (token : Token) : Lexer := { x with tokens := x.tokens.push token }

/-- Leave indentations to the right of the column. -/
def unindent (column : Nat) : List Nat → List Nat
  | [] => []
  | indent :: rest => if column < indent then unindent column rest else indent :: rest

/-- Close the block collections whose indentations are given up. -/
def closeTo (x : Lexer) (indents : List Nat) : Lexer :=
  { x with
    indents
    tokens := x.tokens ++ Array.replicate (x.indents.length - indents.length) .blockEnd }

def unroll (x : Lexer) : Lexer :=
  if x.inFlow then x else x.closeTo (unindent x.cursor.column x.indents)

def unrollAll (x : Lexer) : Lexer := if x.inFlow then x else x.closeTo []

/-- Open a block collection at a column right of the current indentation. -/
def roll (x : Lexer) (column place : Nat) (token : Token) : Lexer :=
  if !x.inFlow && x.indents.head?.all (· < column) then
    { x with indents := column :: x.indents, tokens := x.tokens.insertIdxIfInBounds place token }
  else x

/-- Give up the possible key of this level. -/
def dropKey? (x : Lexer) : Option Lexer :=
  if x.key.any (·.required) then none else some { x with key := none }

/-- Remember that a key may start here. -/
def saveKey? (x : Lexer) : Option Lexer := do
  if x.keyAllowed then
    let required := !x.inFlow && x.indents.head? == some x.cursor.column
    let x ← x.dropKey?
    return { x with key := some ⟨required, x.cursor.mark, x.tokens.size⟩ }
  else return x

/-- A key ends on its line, after at most 1024 characters. -/
def expire? (mark : Mark) : Option KeyPlace → Option (Option KeyPlace)
  | none => some none
  | some key =>
      if key.mark.line < mark.line || key.mark.index + 1024 < mark.index then
        if key.required then none else some none
      else some (some key)

def expireKeys? (x : Lexer) : Option Lexer := do
  let outerKeys ← x.outerKeys.mapM (expire? x.cursor.mark)
  let key ← expire? x.cursor.mark x.key
  return { x with key, outerKeys }

/-- Pass blanks, comments and line ends. Outside flow collections a new line allows
a key, and where a key is allowed a tab is no blank. -/
def passGapFrom (inFlow keyAllowed comment : Bool) (mark : Mark) : List Char → Bool × Cursor
  | [] => (keyAllowed, ⟨[], mark⟩)
  | c :: rest =>
      if isBreak c then passGapFrom inFlow (keyAllowed || !inFlow) false (mark.after c) rest
      else if comment then passGapFrom inFlow keyAllowed true (mark.after c) rest
      else if c == '#' then passGapFrom inFlow keyAllowed true (mark.after c) rest
      else if c == ' ' || (c == '\t' && (inFlow || !keyAllowed)) ||
          (isOrderMark c && mark.index == 0) then
        passGapFrom inFlow keyAllowed false (mark.after c) rest
      else (keyAllowed, ⟨c :: rest, mark⟩)

def passGap (x : Lexer) : Lexer :=
  let (keyAllowed, cursor) :=
    passGapFrom x.inFlow x.keyAllowed false x.cursor.mark x.cursor.rest
  { x with keyAllowed, cursor }

/-- Go to the next token. -/
def approach? (x : Lexer) : Option Lexer := (x.passGap.expireKeys?).map unroll

def skip (x : Lexer) (n : Nat) : Lexer := { x with cursor := x.cursor.skip n }

def directive? (x : Lexer) : Option Lexer := do
  let x ← x.unrollAll.dropKey?
  let (token, cursor) ← Yaml.directive? (x.cursor.skip 1)
  return { x.emit token with cursor, keyAllowed := false }

def documentMarker? (x : Lexer) (token : Token) : Option Lexer := do
  let x ← x.unrollAll.dropKey?
  return { (x.emit token).skip 3 with keyAllowed := false }

def flowStart? (x : Lexer) (token : Token) : Option Lexer := do
  let x ← x.saveKey?
  return { (x.emit token).skip 1 with
    key := none, outerKeys := x.key :: x.outerKeys, keyAllowed := true }

def flowEnd? (x : Lexer) (token : Token) : Option Lexer := do
  let x ← x.dropKey?
  let x := { (x.emit token).skip 1 with keyAllowed := false }
  match x.outerKeys with
  | [] => return x
  | key :: outerKeys => return { x with key, outerKeys }

def flowEntry? (x : Lexer) : Option Lexer := do
  let x ← x.dropKey?
  return { (x.emit .flowEntry).skip 1 with keyAllowed := true }

/-- An entry or a key of a block collection, which may only start where a key may. -/
def blockItem? (x : Lexer) (collection token : Token) : Option Lexer := do
  if !x.inFlow && !x.keyAllowed then none
  else
    let x ← (x.roll x.cursor.column x.tokens.size collection).dropKey?
    return (x.emit token).skip 1

def blockEntry? (x : Lexer) : Option Lexer := do
  return { ← x.blockItem? .blockSequenceStart .blockEntry with keyAllowed := true }

def keyMark? (x : Lexer) : Option Lexer := do
  return { ← x.blockItem? .blockMappingStart .key with keyAllowed := !x.inFlow }

/-- The colon before a value: what stands before it is a key if one may have
started there. -/
def value? (x : Lexer) : Option Lexer :=
  match x.key with
  | some key =>
      let x := { x with tokens := x.tokens.insertIdxIfInBounds key.tokenCount .key }
      let x := x.roll key.mark.column key.tokenCount .blockMappingStart
      some { (x.emit .value).skip 1 with key := none, keyAllowed := false }
  | none =>
      if !x.inFlow && !x.keyAllowed then none
      else
        let x := x.roll x.cursor.column x.tokens.size .blockMappingStart
        some { (x.emit .value).skip 1 with keyAllowed := !x.inFlow }

def named? (x : Lexer) (token : String → Token) : Option Lexer := do
  let x ← x.saveKey?
  let (name, cursor) ← anchorName? (x.cursor.skip 1)
  return { x.emit (token name) with cursor, keyAllowed := false }

def tag? (x : Lexer) : Option Lexer := do
  let x ← x.saveKey?
  let (tag, cursor) ← Yaml.tag? x.inFlow x.cursor
  return { x.emit (.tag tag.handle tag.suffix) with cursor, keyAllowed := false }

/-- The least column of a further line of a scalar. -/
def leastColumn (x : Lexer) : Nat :=
  match x.indents with
  | [] => 0
  | indent :: _ => indent + 1

def blockScalar? (x : Lexer) (style : ScalarStyle) : Option Lexer := do
  let x ← x.dropKey?
  let (text, cursor) ←
    Yaml.blockScalar? (style == .folded) (max 1 x.leastColumn) (x.cursor.skip 1)
  return { x.emit (.scalar style text) with cursor, keyAllowed := true }

def quotedScalar? (x : Lexer) (style : ScalarStyle)
    (read : Cursor → Option (String × Cursor)) : Option Lexer := do
  let x ← x.saveKey?
  let (text, cursor) ← read (x.cursor.skip 1)
  return { x.emit (.scalar style text) with cursor, keyAllowed := false }

def plainScalar? (x : Lexer) : Option Lexer := do
  let x ← x.saveKey?
  let scalar ← Yaml.plainScalar? x.inFlow x.leastColumn x.cursor
  return { x.emit (.scalar .plain scalar.text) with
    cursor := scalar.cursor, keyAllowed := scalar.brokenAfter }

/-- Read the token that starts with `c`. -/
def token? (x : Lexer) (c : Char) (rest : List Char) : Option Lexer :=
  if x.cursor.column == 0 && c == '%' then x.directive?
  else if x.cursor.column == 0 && startsMarker (c :: rest) then
    x.documentMarker? (if c == '-' then .documentStart else .documentEnd)
  else if c == '[' then x.flowStart? .flowSequenceStart
  else if c == '\x7b' then x.flowStart? .flowMappingStart
  else if c == ']' then x.flowEnd? .flowSequenceEnd
  else if c == '\x7d' then x.flowEnd? .flowMappingEnd
  else if c == ',' then x.flowEntry?
  else if c == '-' && endsWord rest then x.blockEntry?
  else if c == '?' && (x.inFlow || endsWord rest) then x.keyMark?
  else if c == ':' && (x.inFlow || endsWord rest) then x.value?
  else if c == '*' then x.named? .alias
  else if c == '&' then x.named? .anchor
  else if c == '!' then x.tag?
  else if c == '|' && !x.inFlow then x.blockScalar? .literal
  else if c == '>' && !x.inFlow then x.blockScalar? .folded
  else if c == '\x27' then x.quotedScalar? .singleQuoted singleQuoted?
  else if c == '"' then x.quotedScalar? .doubleQuoted doubleQuoted?
  else if startsPlain x.inFlow c rest then x.plainScalar?
  else none

/-- Read tokens to the end of the text. Each takes a character at least. -/
def tokensFrom : Nat → Lexer → Option (List Token)
  | 0, _ => none
  | fuel + 1, x =>
      match x.approach? with
      | none => none
      | some x =>
          match x.cursor.rest with
          | [] => (x.unrollAll.dropKey?).map (·.tokens.toList)
          | c :: rest =>
              match x.token? c rest with
              | none => none
              | some x => tokensFrom fuel x

end Lexer

def tokens? (text : String) : Option (List Token) :=
  match admit? text with
  | none => none
  | some cs => Lexer.tokensFrom (cs.length + 1) { cursor := ⟨cs, {}⟩ }

end RestContract.Yaml
