import RestContract.Json.Basic
import RestContract.Yaml.Cursor
import RestContract.Yaml.Numeral

/-!
Writing a value as YAML text, in block style with two blanks a level. A list in a
mapping stands at the column of its key. A text is written plain where that reads
back as the same text, in single quotes otherwise, as a literal block if it has
several lines, and in double quotes with escapes if nothing else can carry it.
-/
namespace RestContract.Yaml

/-- Written as it is; anything else is written as an escape. -/
def isPrintable (c : Char) : Bool :=
  c == '\n' || (0x20 ≤ c.toNat && c.toNat ≤ 0x7E) ||
    (0xA0 ≤ c.toNat && c.toNat != 0xFEFF && c.toNat != 0xFFFE && c.toNat != 0xFFFF)

/-- The forms in which a text can be written. -/
inductive TextForm where
  | plain
  | singleQuoted
  | doubleQuoted
  | literal
  deriving DecidableEq, Repr

def indicators : List Char :=
  ['#', ',', '[', ']', '\x7b', '\x7d', '&', '*', '!', '|', '>', '\x27', '"', '%', '@', '\x60']

/-- The text starts like a part of YAML rather than like a word. -/
def startsLikeMarkup : List Char → Bool
  | [] => false
  | c :: rest =>
      indicators.contains c || ((c == '?' || c == ':' || c == '-') && endsWord rest) ||
        "---".toList.isPrefixOf (c :: rest) || "...".toList.isPrefixOf (c :: rest)

/-- A colon at the end of a word, or a hash at the start of one. -/
def holdsMarkup : List Char → Bool
  | [] => false
  | ':' :: rest => endsWord rest || holdsMarkup rest
  | c :: '#' :: rest => isBlankOrBreak c || holdsMarkup ('#' :: rest)
  | _ :: rest => holdsMarkup rest

def allowsPlain (cs : List Char) : Bool :=
  !startsLikeMarkup cs && !holdsMarkup cs && cs.head? != some ' ' && cs.getLast? != some ' ' &&
    !cs.contains '\n'

/-- A blank stands right before a break. -/
def hasBlankBeforeBreak : List Char → Bool
  | ' ' :: '\n' :: _ => true
  | _ :: rest => hasBlankBeforeBreak rest
  | [] => false

def textForm (text : String) : TextForm :=
  let cs := text.toList
  if !cs.all isPrintable then .doubleQuoted
  else if cs.contains '\n' then
    if hasBlankBeforeBreak cs || cs.getLast? == some ' ' then .doubleQuoted else .literal
  else if looksTyped text || !allowsPlain cs then .singleQuoted
  else .plain

def upperHexDigit (n : Nat) : Char := (Nat.digitChar (n % 16)).toUpper

/-- So many hexadecimal digits of a number. -/
def upperHex : Nat → Nat → List Char
  | 0, _ => []
  | width + 1, n => upperHex width (n / 16) ++ [upperHexDigit n]

def escapeName? (c : Char) : Option Char :=
  match c.toNat with
  | 0x00 => some '0'
  | 0x07 => some 'a'
  | 0x08 => some 'b'
  | 0x09 => some 't'
  | 0x0A => some 'n'
  | 0x0B => some 'v'
  | 0x0C => some 'f'
  | 0x0D => some 'r'
  | 0x1B => some 'e'
  | 0x22 => some '"'
  | 0x5C => some '\\'
  | 0x85 => some 'N'
  | 0xA0 => some '_'
  | 0x2028 => some 'L'
  | 0x2029 => some 'P'
  | _ => none

def escape (c : Char) : List Char :=
  match escapeName? c with
  | some name => ['\\', name]
  | none =>
      if c.toNat ≤ 0xFF then '\\' :: 'x' :: upperHex 2 c.toNat
      else if c.toNat ≤ 0xFFFF then '\\' :: 'u' :: upperHex 4 c.toNat
      else '\\' :: 'U' :: upperHex 8 c.toNat

def isEscaped (c : Char) : Bool := !isPrintable c || isBreak c || c == '"' || c == '\\'

def doubleQuoted (cs : List Char) : List Char :=
  '"' :: cs.flatMap (fun c => if isEscaped c then escape c else [c]) ++ ['"']

def singleQuoted (cs : List Char) : List Char :=
  '\x27' :: cs.flatMap (fun c => if c == '\x27' then ['\x27', '\x27'] else [c]) ++ ['\x27']

def spaces (n : Nat) : List Char := List.replicate n ' '

/-- The indentation of a block is stated if its first line would hide it. -/
def indentationHint : List Char → List Char
  | ' ' :: _ => ['2']
  | '\n' :: _ => ['2']
  | _ => []

/-- How a block ends, on its characters in reverse: without a final break, with one,
or with breaks to be kept. -/
def chompingHint : List Char → List Char
  | ['\n'] => ['+']
  | '\n' :: '\n' :: _ => ['+']
  | '\n' :: _ => []
  | _ => ['-']

def splitLines : List Char → List (List Char)
  | [] => [[]]
  | '\n' :: rest => [] :: splitLines rest
  | c :: rest =>
      match splitLines rest with
      | [] => [[c]]
      | line :: lines => (c :: line) :: lines

/-- The lines of a block; a final break ends the last line and starts none. -/
def blockLines (cs : List Char) : List (List Char) :=
  let lines := splitLines cs
  if cs.getLast? == some '\n' then lines.dropLast else lines

def indentLine (indent : Nat) (line : List Char) : List Char :=
  if line.isEmpty then [] else spaces indent ++ line

def literalBlock (indent : Nat) (cs : List Char) : List Char :=
  '|' :: indentationHint cs ++ chompingHint cs.reverse ++
    (blockLines cs).flatMap (fun line => '\n' :: indentLine indent line)

/-- A text, whose further lines are indented by `indent`. -/
def scalar (indent : Nat) (text : String) : List Char :=
  match textForm text with
  | .plain => text.toList
  | .singleQuoted => singleQuoted text.toList
  | .doubleQuoted => doubleQuoted text.toList
  | .literal => literalBlock indent text.toList

/-- A key that fits on the line of its value. -/
def isSimpleKey (key : String) : Bool := key.utf8ByteSize ≤ 128 && !key.toList.any isBreak

def freshLine (indent : Nat) : List Char := '\n' :: spaces indent

/-- The column of a value behind its key. A list stays at the column of a simple key. -/
def valueColumn (indent : Nat) (key : String) (value : Json) : Nat :=
  match value with
  | .array (_ :: _) => if isSimpleKey key then indent else indent + 2
  | _ => indent + 2

/-- A key and what leads from it to its value: mappings and lists behind a simple key
start on a fresh line, and a key of several lines has another line for its value. -/
def keyText (indent : Nat) (key : String) (value : Json) : List Char :=
  if isSimpleKey key then
    scalar (indent + 2) key ++
      match value with
      | .array (_ :: _) => ':' :: freshLine indent
      | .object (_ :: _) => ':' :: freshLine (indent + 2)
      | _ => ": ".toList
  else "? ".toList ++ scalar (indent + 2) key ++ freshLine indent ++ ": ".toList

mutual

/-- A value whose first character stands at column `indent`. -/
def inPlace (indent : Nat) : Json → List Char
  | .null => "null".toList
  | .bool value => if value then "true".toList else "false".toList
  | .number digits => digits.toList
  | .string text => scalar indent text
  | .unpairedSurrogate => scalar indent ""
  | .array [] => "[]".toList
  | .array (item :: rest) => "- ".toList ++ inPlace (indent + 2) item ++ furtherItems indent rest
  | .object [] => "\x7b\x7d".toList
  | .object ((key, value) :: rest) =>
      keyText indent key value ++ inPlace (valueColumn indent key value) value ++
        furtherEntries indent rest

def furtherItems (indent : Nat) : List Json → List Char
  | [] => []
  | item :: rest =>
      freshLine indent ++ "- ".toList ++ inPlace (indent + 2) item ++ furtherItems indent rest

def furtherEntries (indent : Nat) : List (String × Json) → List Char
  | [] => []
  | (key, value) :: rest =>
      freshLine indent ++ keyText indent key value ++
        inPlace (valueColumn indent key value) value ++ furtherEntries indent rest

end

/-- The text of a whole document. -/
def render (value : Json) : String := String.ofList (inPlace 0 value ++ ['\n'])

end RestContract.Yaml
