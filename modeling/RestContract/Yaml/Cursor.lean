/-!
Characters of a YAML text and positions in it. Characters that may not occur are refused
and line ends are made uniform before anything is read, so one character is one step: a
break leads to the start of the next line, any other character to the next column.
-/
namespace RestContract.Yaml

/-- The separators that only break lines in text, and are kept when lines are read. -/
def isSeparator (c : Char) : Bool := c.toNat == 0x2028 || c.toNat == 0x2029

def isBreak (c : Char) : Bool :=
  c == '\n' || c == '\r' || c.toNat == 0x85 || isSeparator c

def isBlank (c : Char) : Bool := c == ' ' || c == '\t'

def isBlankOrBreak (c : Char) : Bool := isBlank c || isBreak c

/-- The next character, if any, is a blank or a break. -/
def endsWord : List Char → Bool
  | [] => true
  | c :: _ => isBlankOrBreak c

/-- May occur in a YAML text. -/
def isAdmissible (c : Char) : Bool :=
  let n := c.toNat
  c == '\t' || c == '\n' || c == '\r' || (0x20 ≤ n && n ≤ 0x7E) || n == 0x85 ||
    (0xA0 ≤ n && n != 0xFFFE && n != 0xFFFF)

/-- Every line end is a line feed; the separators stay. -/
def uniformBreaks : List Char → List Char
  | [] => []
  | '\r' :: '\n' :: rest => '\n' :: uniformBreaks rest
  | c :: rest => (if isBreak c && !isSeparator c then '\n' else c) :: uniformBreaks rest

def isOrderMark (c : Char) : Bool := c.toNat == 0xFEFF

/-- The characters to be read: without the byte order mark in front. -/
def admit? (text : String) : Option (List Char) :=
  let cs := text.toList
  let cs := if cs.head?.any isOrderMark then cs.tail else cs
  if cs.all isAdmissible then some (uniformBreaks cs) else none

structure Mark where
  index : Nat := 0
  line : Nat := 0
  column : Nat := 0

def Mark.after (m : Mark) (c : Char) : Mark :=
  if isBreak c then ⟨m.index + 1, m.line + 1, 0⟩ else ⟨m.index + 1, m.line, m.column + 1⟩

/-- What is still to be read, and where it stands. -/
structure Cursor where
  rest : List Char
  mark : Mark := {}

namespace Cursor

def skip : Nat → Cursor → Cursor
  | 0, cursor => cursor
  | n + 1, cursor =>
      match cursor.rest with
      | [] => cursor
      | c :: rest => skip n ⟨rest, cursor.mark.after c⟩

/-- The longest run of such characters, and the cursor behind it. -/
def span (p : Char → Bool) (cursor : Cursor) : List Char × Cursor :=
  let run := cursor.rest.takeWhile p
  (run, cursor.skip run.length)

def skipWhile (p : Char → Bool) (cursor : Cursor) : Cursor := (cursor.span p).2

def column (cursor : Cursor) : Nat := cursor.mark.column

end Cursor

/-- Text that ends a document or starts the next one when it begins a line. -/
def startsMarker : List Char → Bool
  | '-' :: '-' :: '-' :: rest => endsWord rest
  | '.' :: '.' :: '.' :: rest => endsWord rest
  | _ => false

/-- The rest of a line may hold blanks and a comment; the cursor behind its break. -/
def restOfLine? (cursor : Cursor) : Option Cursor :=
  let cursor := cursor.skipWhile isBlank
  let cursor := if cursor.rest.head? == some '#' then cursor.skipWhile (!isBreak ·) else cursor
  if cursor.rest.head?.all isBreak then some (cursor.skip 1) else none

end RestContract.Yaml
