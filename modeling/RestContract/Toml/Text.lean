import RestContract.Text.Character

/-!
Strings and keys of TOML: four kinds of strings, of which the two that span lines
drop a line end right behind the opening quotes.
-/
namespace RestContract.Toml

open Text (hexChar?)

def isBlank (c : Char) : Bool := c == ' ' || c == '\t'

/-- May occur in comments and strings: anything but control characters, except tabs. -/
def isPlain (c : Char) : Bool := c == '\t' || (0x20 ≤ c.toNat && c.toNat != 0x7F)

def isKeyChar (c : Char) : Bool :=
  ('a' ≤ c && c ≤ 'z') || ('A' ≤ c && c ≤ 'Z') || c.isDigit || c == '_' || c == '-'

def skipBlanks (cs : List Char) : List Char := cs.dropWhile isBlank

def afterNewline? : List Char → Option (List Char)
  | '\n' :: rest => some rest
  | '\r' :: '\n' :: rest => some rest
  | _ => none

def dropNewline (cs : List Char) : List Char := (afterNewline? cs).getD cs

def simpleEscape? : Char → Option Char
  | 'b' => some '\x08'
  | 't' => some '\t'
  | 'n' => some '\n'
  | 'f' => some '\x0c'
  | 'r' => some '\r'
  | '"' => some '"'
  | '\\' => some '\\'
  | _ => none

/-- What a reader of strings has found, and what follows. -/
abbrev Found := List Char × List Char

def Found.push (c : Char) (f : Found) : Found := (c :: f.1, f.2)

/-- Read behind the opening quote of a string on one line. -/
def basicFrom : List Char → Option Found
  | [] => none
  | '"' :: rest => some ([], rest)
  | '\\' :: 'u' :: a :: b :: c :: d :: rest =>
      match hexChar? [a, b, c, d] with
      | some c => (basicFrom rest).map (.push c)
      | none => none
  | '\\' :: 'U' :: a :: b :: c :: d :: e :: f :: g :: h :: rest =>
      match hexChar? [a, b, c, d, e, f, g, h] with
      | some c => (basicFrom rest).map (.push c)
      | none => none
  | '\\' :: c :: rest =>
      match simpleEscape? c with
      | some c => (basicFrom rest).map (.push c)
      | none => none
  | c :: rest => if isPlain c && c != '\\' then (basicFrom rest).map (.push c) else none

def literalFrom : List Char → Option Found
  | [] => none
  | c :: rest =>
      if c == '\x27' then some ([], rest)
      else if isPlain c then (literalFrom rest).map (.push c)
      else none

/-- Read behind the opening quotes of a string of several lines. A backslash at the
end of a line joins it with the next text; `joining` tells that this is under way. -/
def basicLinesFrom (joining : Bool) : List Char → Option Found
  | [] => none
  | '"' :: '"' :: '"' :: '"' :: '"' :: rest => some (['"', '"'], rest)
  | '"' :: '"' :: '"' :: '"' :: rest => some (['"'], rest)
  | '"' :: '"' :: '"' :: rest => some ([], rest)
  | '\\' :: 'u' :: a :: b :: c :: d :: rest =>
      match hexChar? [a, b, c, d] with
      | some c => (basicLinesFrom false rest).map (.push c)
      | none => none
  | '\\' :: 'U' :: a :: b :: c :: d :: e :: f :: g :: h :: rest =>
      match hexChar? [a, b, c, d, e, f, g, h] with
      | some c => (basicLinesFrom false rest).map (.push c)
      | none => none
  | '\\' :: c :: rest =>
      if (afterNewline? (skipBlanks (c :: rest))).isSome then
        if c == '\n' || c == '\r' || isBlank c then basicLinesFrom true rest else none
      else
        match simpleEscape? c with
        | some c => (basicLinesFrom false rest).map (.push c)
        | none => none
  | '\r' :: '\n' :: rest =>
      if joining then basicLinesFrom true rest else (basicLinesFrom false rest).map (.push '\n')
  | c :: rest =>
      if joining && (c == '\n' || isBlank c) then basicLinesFrom true rest
      else if c == '\n' || (isPlain c && c != '\\') then
        (basicLinesFrom false rest).map (.push c)
      else none

def literalLinesFrom : List Char → Option Found
  | [] => none
  | '\x27' :: '\x27' :: '\x27' :: '\x27' :: '\x27' :: rest => some (['\x27', '\x27'], rest)
  | '\x27' :: '\x27' :: '\x27' :: '\x27' :: rest => some (['\x27'], rest)
  | '\x27' :: '\x27' :: '\x27' :: rest => some ([], rest)
  | '\r' :: '\n' :: rest => (literalLinesFrom rest).map (.push '\n')
  | c :: rest =>
      if c == '\n' || isPlain c then (literalLinesFrom rest).map (.push c) else none

def ofFound (f : Found) : String × List Char := (String.ofList f.1, f.2)

/-- A string of one of the four kinds. -/
def string? : List Char → Option (String × List Char)
  | '"' :: '"' :: '"' :: rest => (basicLinesFrom false (dropNewline rest)).map ofFound
  | '"' :: rest => (basicFrom rest).map ofFound
  | '\x27' :: '\x27' :: '\x27' :: rest => (literalLinesFrom (dropNewline rest)).map ofFound
  | '\x27' :: rest => (literalFrom rest).map ofFound
  | _ => none

/-- One part of a key: bare, or a string on one line. -/
def keyPart? : List Char → Option (String × List Char)
  | '"' :: rest => (basicFrom rest).map ofFound
  | '\x27' :: rest => (literalFrom rest).map ofFound
  | cs =>
      let name := cs.takeWhile isKeyChar
      if name.isEmpty then none else some (String.ofList name, cs.drop name.length)

/-- The parts of a key between dots; at most so many. -/
def keyFrom : Nat → List Char → Option (List String × List Char)
  | 0, _ => none
  | limit + 1, cs =>
      match keyPart? cs with
      | none => none
      | some (part, rest) =>
          match skipBlanks rest with
          | '.' :: more =>
              (keyFrom limit (skipBlanks more)).map fun (parts, r) => (part :: parts, r)
          | other => some ([part], other)

/-- A key, and what follows it and its blanks. -/
def key? (cs : List Char) : Option (List String × List Char) := keyFrom (cs.length + 1) cs

end RestContract.Toml
