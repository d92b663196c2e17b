import RestContract.Json.Basic
import RestContract.Text.Character

/-!
Reading JSON text. The whole text has to be one value between blanks.
-/
namespace RestContract.Json

open Text (numeral?)

def isSpace (c : Char) : Bool := c == ' ' || c == '\n' || c == '\t' || c == '\r'

def skipSpace (cs : List Char) : List Char := cs.dropWhile isSpace

def shortEscape? : Char → Option Char
  | '"' => some '"'
  | '\\' => some '\\'
  | '/' => some '/'
  | 'b' => some '\x08'
  | 'f' => some '\x0c'
  | 'n' => some '\n'
  | 'r' => some '\r'
  | 't' => some '\t'
  | _ => none

/-- A piece of a string: a character, or the unit of a numeric escape. -/
inductive Piece where
  | char (c : Char)
  | unit (n : Nat)

/-- The pieces up to the closing quote, and what follows it. -/
def readPieces : List Char → Option (List Piece × List Char)
  | [] => none
  | '"' :: rest => some ([], rest)
  | '\\' :: 'u' :: a :: b :: c :: d :: rest =>
      match numeral? 16 [a, b, c, d], readPieces rest with
      | some n, some (pieces, after) => some (.unit n :: pieces, after)
      | _, _ => none
  | '\\' :: e :: rest =>
      match shortEscape? e, readPieces rest with
      | some c, some (pieces, after) => some (.char c :: pieces, after)
      | _, _ => none
  | c :: rest =>
      if c.toNat < 0x20 then none
      else
        match readPieces rest with
        | some (pieces, after) => some (.char c :: pieces, after)
        | none => none

/-- A leading surrogate joins the trailing one right behind it; any other
surrogate spoils the text. -/
def joinPieces : List Piece → Option (List Char)
  | [] => some []
  | .char c :: rest => (joinPieces rest).map (c :: ·)
  | .unit high :: .unit low :: rest =>
      if 0xD800 ≤ high && high < 0xDC00 then
        if 0xDC00 ≤ low && low < 0xE000 then
          (joinPieces rest).map
            (Char.ofNat (0x10000 + (high - 0xD800) * 0x400 + (low - 0xDC00)) :: ·)
        else none
      else if 0xDC00 ≤ high && high < 0xE000 then none
      else (joinPieces (.unit low :: rest)).map (Char.ofNat high :: ·)
  | .unit n :: rest =>
      if 0xD800 ≤ n && n < 0xE000 then none else (joinPieces rest).map (Char.ofNat n :: ·)

def ofPieces (pieces : List Piece) : Json :=
  match joinPieces pieces with
  | some text => string (String.ofList text)
  | none => unpairedSurrogate

/-- An object, if all its keys are texts. -/
def ofFields : Option (List (String × Json)) → Json
  | some fields => object fields
  | none => unpairedSurrogate

/-- A field in front of others, if its key is a text and theirs are. -/
def addField (key : List Piece) (value : Json) (others : Option (List (String × Json))) :
    Option (List (String × Json)) :=
  match joinPieces key, others with
  | some text, some fields => some ((String.ofList text, value) :: fields)
  | _, _ => none

def splitDigits (cs : List Char) : List Char × List Char :=
  (cs.takeWhile Char.isDigit, cs.dropWhile Char.isDigit)

def readInteger (cs : List Char) : Option (List Char × List Char) :=
  match splitDigits cs with
  | ([], _) => none
  | (['0'], rest) => some (['0'], rest)
  | ('0' :: _, _) => none
  | (digits, rest) => some (digits, rest)

def readFraction : List Char → Option (List Char × List Char)
  | '.' :: rest =>
      match splitDigits rest with
      | ([], _) => none
      | (digits, after) => some ('.' :: digits, after)
  | rest => some ([], rest)

def readSign : List Char → List Char × List Char
  | '+' :: rest => (['+'], rest)
  | '-' :: rest => (['-'], rest)
  | rest => ([], rest)

def readExponent : List Char → Option (List Char × List Char)
  | c :: rest =>
      if c == 'e' || c == 'E' then
        let (sign, unsigned) := readSign rest
        match splitDigits unsigned with
        | ([], _) => none
        | (digits, after) => some (c :: sign ++ digits, after)
      else some ([], c :: rest)
  | [] => some ([], [])

def readMinus : List Char → List Char × List Char
  | '-' :: rest => (['-'], rest)
  | rest => ([], rest)

def readNumber (cs : List Char) : Option (Json × List Char) := do
  let (minus, cs) := readMinus cs
  let (whole, cs) ← readInteger cs
  let (fraction, cs) ← readFraction cs
  let (exponent, cs) ← readExponent cs
  return (number (String.ofList (minus ++ whole ++ fraction ++ exponent)), cs)

/-- What follows `word`, if the text starts with it. -/
def afterWord? (word : String) (cs : List Char) : Option (List Char) :=
  if word.toList.isPrefixOf cs then some (cs.drop word.length) else none

mutual

def readValue : Nat → List Char → Option (Json × List Char)
  | 0, _ => none
  | fuel + 1, cs =>
      match skipSpace cs with
      | [] => none
      | '"' :: rest => (readPieces rest).map fun (pieces, after) => (ofPieces pieces, after)
      | '[' :: rest =>
          match skipSpace rest with
          | ']' :: after => some (array [], after)
          | first => (readItems fuel first).map fun (items, after) => (array items, after)
      | '\x7b' :: rest =>
          match skipSpace rest with
          | '\x7d' :: after => some (object [], after)
          | first =>
              (readFields fuel first).map fun (fields, after) => (ofFields fields, after)
      | 'n' :: rest => (afterWord? "ull" rest).map (null, ·)
      | 't' :: rest => (afterWord? "rue" rest).map (bool true, ·)
      | 'f' :: rest => (afterWord? "alse" rest).map (bool false, ·)
      | other => readNumber other

def readItems : Nat → List Char → Option (List Json × List Char)
  | 0, _ => none
  | fuel + 1, cs =>
      match readValue fuel cs with
      | none => none
      | some (item, rest) =>
          match skipSpace rest with
          | ',' :: more => (readItems fuel more).map fun (items, after) => (item :: items, after)
          | ']' :: after => some ([item], after)
          | _ => none

def readFields : Nat → List Char → Option (Option (List (String × Json)) × List Char)
  | 0, _ => none
  | fuel + 1, cs =>
      match skipSpace cs with
      | '"' :: rest =>
          match readPieces rest with
          | none => none
          | some (key, afterKey) =>
              match skipSpace afterKey with
              | ':' :: body =>
                  match readValue fuel body with
                  | none => none
                  | some (value, afterValue) =>
                      match skipSpace afterValue with
                      | ',' :: more =>
                          (readFields fuel more).map fun (fields, after) =>
                            (addField key value fields, after)
                      | '\x7d' :: after => some (addField key value (some []), after)
                      | _ => none
              | _ => none
      | _ => none

end

/-- Each character starts at most two steps of the reader. -/
def parse (text : String) : Option Json :=
  match readValue (2 * text.length + 2) text.toList with
  | some (value, rest) => if (skipSpace rest).isEmpty then some value else none
  | none => none

end RestContract.Json
