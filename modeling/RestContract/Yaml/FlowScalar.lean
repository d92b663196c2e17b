import RestContract.Text.Character
import RestContract.Yaml.Cursor

/-!
Plain and quoted scalars, whose lines are folded. A plain one ends before a comment,
before a colon that ends a word, before the brackets and commas of a flow collection,
before a document marker and, outside flow collections, before a line that is indented
less than it must be. Single quotes are doubled to be written, double quotes allow escapes.
-/
namespace RestContract.Yaml

open Text (hexChar?)

/-- The blanks and line breaks between two words of a scalar. Blanks within a line stay;
one line break becomes a space; of several the first is dropped. A gap that starts with an
escaped break keeps the breaks that follow it. -/
structure Gap where
  blanks : List Char := []
  breaks : List Char := []
  escaped : Bool := false

namespace Gap

def isBroken (g : Gap) : Bool := g.escaped || !g.breaks.isEmpty

def isEmpty (g : Gap) : Bool := !g.isBroken && g.blanks.isEmpty

def add (g : Gap) (c : Char) : Gap :=
  if isBreak c then { g with breaks := g.breaks ++ [c] }
  else if g.isBroken then g
  else { g with blanks := g.blanks ++ [c] }

def text (g : Gap) : List Char :=
  if g.escaped then g.breaks
  else
    match g.breaks with
    | [] => g.blanks
    | ['\n'] => [' ']
    | '\n' :: more => more
    | breaks => breaks

end Gap

/-- Brackets, braces and the comma of flow collections. -/
def isFlowIndicator (c : Char) : Bool :=
  c == ',' || c == '[' || c == ']' || c == '\x7b' || c == '\x7d'

/-- Whether a scalar may start with this character, given what follows it. -/
def startsPlain (inFlow : Bool) (c : Char) (rest : List Char) : Bool :=
  if c == '-' then !rest.head?.any isBlank
  else if c == '?' || c == ':' then !inFlow && !endsWord rest
  else
    !(isBlankOrBreak c || isFlowIndicator c || c == '#' || c == '&' || c == '*' || c == '!' ||
      c == '|' || c == '>' || c == '\x27' || c == '"' || c == '%' || c == '@' || c == '\x60')

/-- The scalar stops before this character even within a line. -/
def stopsPlain (inFlow : Bool) (c : Char) (rest : List Char) : Bool :=
  (c == ':' && endsWord rest) || (inFlow && isFlowIndicator c)

/-- A colon directly before an indicator of a flow collection is refused there. -/
def isMisplacedColon (inFlow : Bool) (c : Char) (rest : List Char) : Bool :=
  inFlow && c == ':' && rest.head?.any fun next => isFlowIndicator next || next == '?'

/-- No word of the scalar may start here after a gap. -/
def stopsLine (inFlow : Bool) (indent : Nat) (mark : Mark) (c : Char) (rest : List Char) : Bool :=
  (!inFlow && mark.column < indent) || (mark.column == 0 && startsMarker (c :: rest)) || c == '#'

/-- A plain scalar, and whether it was left behind a line break. -/
structure PlainScalar where
  text : String
  brokenAfter : Bool
  cursor : Cursor

/-- Read on with the characters found so far in reverse order; `indent` is the
least column of a further line. -/
def plainFrom (inFlow : Bool) (indent : Nat) (found : List Char) (gap : Gap) (mark : Mark) :
    List Char → Option PlainScalar
  | [] => some ⟨String.ofList found.reverse, gap.isBroken, ⟨[], mark⟩⟩
  | c :: rest =>
      if isBlankOrBreak c then
        if c == '\t' && gap.isBroken && mark.column < indent then none
        else plainFrom inFlow indent found (gap.add c) (mark.after c) rest
      else if !gap.isEmpty && stopsLine inFlow indent mark c rest then
        some ⟨String.ofList found.reverse, gap.isBroken, ⟨c :: rest, mark⟩⟩
      else if isMisplacedColon inFlow c rest then none
      else if stopsPlain inFlow c rest then
        some ⟨String.ofList found.reverse, gap.isBroken, ⟨c :: rest, mark⟩⟩
      else
        plainFrom inFlow indent (c :: (gap.text.reverse ++ found)) {} (mark.after c) rest

def plainScalar? (inFlow : Bool) (indent : Nat) (cursor : Cursor) : Option PlainScalar :=
  plainFrom inFlow indent [] {} cursor.mark cursor.rest

/-- The characters written by a backslash and a single letter. -/
def simpleEscape? : Char → Option Char
  | '0' => some '\x00'
  | 'a' => some '\x07'
  | 'b' => some '\x08'
  | 't' => some '\t'
  | '\t' => some '\t'
  | 'n' => some '\n'
  | 'v' => some '\x0b'
  | 'f' => some '\x0c'
  | 'r' => some '\r'
  | 'e' => some '\x1b'
  | ' ' => some ' '
  | '"' => some '"'
  | '/' => some '/'
  | '\\' => some '\\'
  | 'N' => some (Char.ofNat 0x85)
  | '_' => some (Char.ofNat 0xA0)
  | 'L' => some (Char.ofNat 0x2028)
  | 'P' => some (Char.ofNat 0x2029)
  | _ => none

def singleQuotedFrom (found : List Char) (gap : Gap) (mark : Mark) :
    List Char → Option (String × Cursor)
  | [] => none
  | '\x27' :: '\x27' :: rest =>
      singleQuotedFrom ('\x27' :: (gap.text.reverse ++ found)) {}
        ⟨mark.index + 2, mark.line, mark.column + 2⟩ rest
  | c :: rest =>
      if isBlankOrBreak c then singleQuotedFrom found (gap.add c) (mark.after c) rest
      else if mark.column == 0 && startsMarker (c :: rest) then none
      else if c == '\x27' then
        some (String.ofList (gap.text.reverse ++ found).reverse, ⟨rest, mark.after c⟩)
      else singleQuotedFrom (c :: (gap.text.reverse ++ found)) {} (mark.after c) rest

/-- Step over an escape of so many characters within a line. -/
def Mark.forward (m : Mark) (n : Nat) : Mark := ⟨m.index + n, m.line, m.column + n⟩

def doubleQuotedFrom (found : List Char) (gap : Gap) (mark : Mark) :
    List Char → Option (String × Cursor)
  | [] => none
  | '\\' :: 'x' :: a :: b :: rest =>
      match hexChar? [a, b] with
      | some c => doubleQuotedFrom (c :: (gap.text.reverse ++ found)) {} (mark.forward 4) rest
      | none => none
  | '\\' :: 'u' :: a :: b :: c :: d :: rest =>
      match hexChar? [a, b, c, d] with
      | some c => doubleQuotedFrom (c :: (gap.text.reverse ++ found)) {} (mark.forward 6) rest
      | none => none
  | '\\' :: 'U' :: a :: b :: c :: d :: e :: f :: g :: h :: rest =>
      match hexChar? [a, b, c, d, e, f, g, h] with
      | some c => doubleQuotedFrom (c :: (gap.text.reverse ++ found)) {} (mark.forward 10) rest
      | none => none
  | '\\' :: c :: rest =>
      if isBreak c then
        doubleQuotedFrom (gap.text.reverse ++ found) ⟨[], [], true⟩ ((mark.forward 1).after c) rest
      else
        match simpleEscape? c with
        | some c => doubleQuotedFrom (c :: (gap.text.reverse ++ found)) {} (mark.forward 2) rest
        | none => none
  | c :: rest =>
      if isBlankOrBreak c then doubleQuotedFrom found (gap.add c) (mark.after c) rest
      else if mark.column == 0 && startsMarker (c :: rest) then none
      else if c == '"' then
        some (String.ofList (gap.text.reverse ++ found).reverse, ⟨rest, mark.after c⟩)
      else doubleQuotedFrom (c :: (gap.text.reverse ++ found)) {} (mark.after c) rest

/-- Read what stands behind the opening quote. -/
def singleQuoted? (cursor : Cursor) : Option (String × Cursor) :=
  singleQuotedFrom [] {} cursor.mark cursor.rest

def doubleQuoted? (cursor : Cursor) : Option (String × Cursor) :=
  doubleQuotedFrom [] {} cursor.mark cursor.rest

end RestContract.Yaml
