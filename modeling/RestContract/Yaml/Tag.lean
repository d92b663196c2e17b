import RestContract.Text.Character
import RestContract.Yaml.Cursor
import RestContract.Yaml.Syntax

/-!
Tags, anchors and directives. A tag is written in full between angle brackets, or
as a handle that stands for the start of its name, followed by the rest.
-/
namespace RestContract.Yaml

open Text (numeral? charOfCode?)

/-- May occur in the names of anchors, handles and directives. -/
def isNameChar (c : Char) : Bool :=
  ('a' ≤ c && c ≤ 'z') || ('A' ≤ c && c ≤ 'Z') || c.isDigit || c == '_' || c == '-'

/-- May occur in a tag; brackets and commas only where they cannot be taken for
those of a flow collection. -/
def isTagChar (bracketed : Bool) (c : Char) : Bool :=
  isNameChar c || ";/?:@&=+$.%!~*\x27()".toList.contains c ||
    (bracketed && (c == ',' || c == '[' || c == ']'))

/-- The lower bits of an octet that starts a character of several octets, and how
many more octets follow. -/
def leadingOctet? (octet : Nat) : Option (Nat × Nat) :=
  if octet / 32 == 6 then some (octet % 32, 1)
  else if octet / 16 == 14 then some (octet % 16, 2)
  else if octet / 8 == 30 then some (octet % 8, 3)
  else none

/-- Replace each percent sign and two digits by the octet they give. `pending` is
the part of a character read so far and the number of its octets to come. -/
def percentDecodeFrom (pending : Option (Nat × Nat)) : List Char → Option (List Char)
  | [] => if pending.isNone then some [] else none
  | '%' :: a :: b :: rest =>
      match numeral? 16 [a, b], pending with
      | none, _ => none
      | some octet, none =>
          if octet < 0x80 then (percentDecodeFrom none rest).map (Char.ofNat octet :: ·)
          else
            match leadingOctet? octet with
            | some pending => percentDecodeFrom (some pending) rest
            | none => none
      | some octet, some (code, more) =>
          let code := code * 64 + octet % 64
          if octet / 64 != 2 then none
          else if 1 < more then percentDecodeFrom (some (code, more - 1)) rest
          else (percentDecodeFrom none rest).map ((charOfCode? code).getD '�' :: ·)
  | c :: rest =>
      if c == '%' || pending.isSome then none else (percentDecodeFrom none rest).map (c :: ·)

def tagText? (bracketed : Bool) (cursor : Cursor) : Option (String × Cursor) :=
  let (run, cursor) := cursor.span (isTagChar bracketed)
  (percentDecodeFrom none run).map (String.ofList ·, cursor)

structure Tag where
  handle : String
  suffix : String

/-- The tag between angle brackets, behind the opening one. -/
def verbatimTag? (cursor : Cursor) : Option (Tag × Cursor) := do
  let (text, cursor) ← tagText? true cursor
  if text.isEmpty || cursor.rest.head? != some '>' then none
  else return (⟨"", text⟩, cursor.skip 1)

/-- A tag with a handle, or with the primary handle alone; a lone exclamation mark
is a tag of its own. -/
def shorthandTag? (cursor : Cursor) : Option (Tag × Cursor) := do
  let (name, cursor) := (cursor.skip 1).span isNameChar
  if cursor.rest.head? == some '!' then
    let (suffix, cursor) ← tagText? false (cursor.skip 1)
    if suffix.isEmpty then none
    else return (⟨"!" ++ String.ofList name ++ "!", suffix⟩, cursor)
  else
    let (more, cursor) ← tagText? false cursor
    let suffix := String.ofList name ++ more
    return (if suffix.isEmpty then ⟨"", "!"⟩ else ⟨"!", suffix⟩, cursor)

def tag? (inFlow : Bool) (cursor : Cursor) : Option (Tag × Cursor) := do
  let (tag, cursor) ←
    match cursor.rest with
    | _ :: '<' :: _ => verbatimTag? (cursor.skip 2)
    | _ => shorthandTag? cursor
  if endsWord cursor.rest || (inFlow && cursor.rest.head? == some ',') then
    return (tag, cursor)
  else none

/-- May follow the name of an anchor directly. -/
def endsAnchor : List Char → Bool
  | [] => true
  | c :: _ => isBlankOrBreak c || "?:,]\x7d%@\x60".toList.contains c

/-- The name of an anchor or an alias behind its indicator. -/
def anchorName? (cursor : Cursor) : Option (String × Cursor) :=
  let (name, cursor) := cursor.span isNameChar
  if name.isEmpty || !endsAnchor cursor.rest then none else some (String.ofList name, cursor)

/-- A part of a version number has at most nine digits. -/
def versionPart? (cursor : Cursor) : Option (Nat × Cursor) :=
  let (digits, cursor) := cursor.span Char.isDigit
  if 9 < digits.length then none else (numeral? 10 digits).map (·, cursor)

def versionDirective? (cursor : Cursor) : Option (Token × Cursor) := do
  let (major, cursor) ← versionPart? (cursor.skipWhile isBlank)
  if cursor.rest.head? != some '.' then none
  else
    let (minor, cursor) ← versionPart? (cursor.skip 1)
    return (.versionDirective major minor, cursor)

/-- A handle to be declared ends with an exclamation mark, or is one. -/
def declaredHandle? (cursor : Cursor) : Option (String × Cursor) :=
  if cursor.rest.head? != some '!' then none
  else
    let (name, cursor) := (cursor.skip 1).span isNameChar
    if cursor.rest.head? == some '!' then
      some ("!" ++ String.ofList name ++ "!", cursor.skip 1)
    else if name.isEmpty then some ("!", cursor)
    else none

def tagDirective? (cursor : Cursor) : Option (Token × Cursor) := do
  let (handle, cursor) ← declaredHandle? (cursor.skipWhile isBlank)
  if !cursor.rest.head?.any isBlank then none
  else
    let (expansion, cursor) ← tagText? true (cursor.skipWhile isBlank)
    if expansion.isEmpty || !endsWord cursor.rest then none
    else return (.tagDirective handle expansion, cursor)

/-- A directive behind its percent sign, up to the end of its line. -/
def directive? (cursor : Cursor) : Option (Token × Cursor) := do
  let (name, cursor) := cursor.span isNameChar
  if !endsWord cursor.rest then none
  else
    let (token, cursor) ←
      if name == "YAML".toList then versionDirective? cursor
      else if name == "TAG".toList then tagDirective? cursor
      else none
    return (token, ← restOfLine? cursor)

end RestContract.Yaml
