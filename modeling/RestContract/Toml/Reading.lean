import RestContract.Toml.Text
import RestContract.Toml.Value

/-!
Reading TOML. A text is a sequence of lines: assignments, headers of tables, and
lines that hold a comment at most.
-/
namespace RestContract.Toml

/-- The rest of a line may hold blanks and a comment; what follows its end. -/
def lineEnd? (cs : List Char) : Option (List Char) :=
  let cs := skipBlanks cs
  let cs := if cs.head? == some '#' then cs.dropWhile isPlain else cs
  if cs.isEmpty then some [] else afterNewline? cs

/-- Pass blanks, comments and line ends within an array. -/
def skipFillFrom (comment : Bool) : List Char → List Char
  | [] => []
  | '\n' :: rest => skipFillFrom false rest
  | '\r' :: '\n' :: rest => skipFillFrom false rest
  | c :: rest =>
      if comment then
        if isPlain c then skipFillFrom true rest else c :: rest
      else if isBlank c then skipFillFrom false rest
      else if c == '#' then skipFillFrom true rest
      else c :: rest

def skipFill (cs : List Char) : List Char := skipFillFrom false cs

mutual

/-- A value that takes so many calls at most. -/
def value? : Nat → List Char → Option (Value × List Char)
  | 0, _ => none
  | fuel + 1, cs =>
      match cs with
      | 't' :: 'r' :: 'u' :: 'e' :: rest => some (.flag true, rest)
      | 'f' :: 'a' :: 'l' :: 's' :: 'e' :: rest => some (.flag false, rest)
      | '[' :: rest => (arrayItems? fuel (skipFill rest)).map fun (items, r) => (.array items, r)
      | '\x7b' :: rest =>
          match skipBlanks rest with
          | '\x7d' :: rest => some (.table .inline [], rest)
          | cs => (inlineEntries? fuel [] cs).map fun (entries, r) => (.table .inline entries, r)
      | cs => (string? cs).map fun (text, r) => (.text text, r)

def arrayItems? : Nat → List Char → Option (List Value × List Char)
  | 0, _ => none
  | _ + 1, ']' :: rest => some ([], rest)
  | fuel + 1, cs =>
      match value? fuel cs with
      | none => none
      | some (item, rest) =>
          match skipFill rest with
          | ',' :: rest =>
              (arrayItems? fuel (skipFill rest)).map fun (items, r) => (item :: items, r)
          | ']' :: rest => some ([item], rest)
          | _ => none

/-- The assignments between braces, added to those before them. -/
def inlineEntries? : Nat → Entries → List Char → Option (Entries × List Char)
  | 0, _, _ => none
  | fuel + 1, entries, cs =>
      match key? cs with
      | some (key, '=' :: rest) =>
          match value? fuel (skipBlanks rest) with
          | none => none
          | some (value, rest) =>
              match assign? [] key value entries, skipBlanks rest with
              | some entries, ',' :: rest => inlineEntries? fuel entries (skipBlanks rest)
              | some entries, '\x7d' :: rest => some (entries, rest)
              | _, _ => none
      | _ => none

end

/-- What has been read: all entries, and the path of the table that is open. -/
structure Progress where
  entries : Entries := []
  path : List String := []

/-- Read an assignment up to the end of its line. -/
def assignment? (p : Progress) (cs : List Char) : Option (Progress × List Char) :=
  match key? cs with
  | some (key, '=' :: rest) =>
      match value? (rest.length + 1) (skipBlanks rest) with
      | none => none
      | some (value, rest) =>
          match assign? p.path key value p.entries, lineEnd? rest with
          | some entries, some rest => some ({ p with entries }, rest)
          | _, _ => none
  | _ => none

/-- Open the table named by a header, with the function for its last part. -/
def openAt? (openLast? : String → Entries → Option Entries) (key : List String) (p : Progress) :
    Option Progress :=
  match key.getLast? with
  | none => none
  | some last =>
      (modifyAt? false (openLast? last) key.dropLast p.entries).map fun entries => ⟨entries, key⟩

/-- Read a header up to the end of its line. -/
def header? (p : Progress) (cs : List Char) : Option (Progress × List Char) :=
  match cs with
  | '[' :: '[' :: rest =>
      match key? (skipBlanks rest) with
      | some (key, ']' :: ']' :: rest) =>
          match openAt? openNextTable? key p, lineEnd? rest with
          | some p, some rest => some (p, rest)
          | _, _ => none
      | _ => none
  | '[' :: rest =>
      match key? (skipBlanks rest) with
      | some (key, ']' :: rest) =>
          match openAt? openTable? key p, lineEnd? rest with
          | some p, some rest => some (p, rest)
          | _, _ => none
      | _ => none
  | _ => none

/-- Read line after line, each of which takes a character at least. -/
def linesFrom : Nat → Progress → List Char → Option Entries
  | _, p, [] => some p.entries
  | 0, _, _ :: _ => none
  | fuel + 1, p, cs =>
      let cs := skipBlanks cs
      match lineEnd? cs with
      | some rest => linesFrom fuel p rest
      | none =>
          match (if cs.head? == some '[' then header? p cs else assignment? p cs) with
          | some (p, rest) => linesFrom fuel p rest
          | none => none

/-- The table of a text, behind a byte order mark if there is one. -/
def read? (text : String) : Option Value :=
  let cs := text.toList
  let cs := if cs.head?.any (·.toNat == 0xFEFF) then cs.tail else cs
  (linesFrom (cs.length + 1) {} cs).map (.table .header ·)

end RestContract.Toml
