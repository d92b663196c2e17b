import RestContract.Json.Basic

/-!
Writing JSON text, on one line or indented by two blanks a level. Only quotes,
backslashes and control characters are escaped.
-/
namespace RestContract.Json

/-- The two low hexadecimal digits of a number. -/
def hexPair (n : Nat) : List Char :=
  [Nat.digitChar (n / 16 % 16), Nat.digitChar (n % 16)]

def escapeChar (c : Char) : List Char :=
  match c with
  | '"' => ['\\', '"']
  | '\\' => ['\\', '\\']
  | '\x08' => ['\\', 'b']
  | '\x0c' => ['\\', 'f']
  | '\n' => ['\\', 'n']
  | '\r' => ['\\', 'r']
  | '\t' => ['\\', 't']
  | c => if c.toNat < 0x20 then ['\\', 'u', '0', '0'] ++ hexPair c.toNat else [c]

def quote (text : String) : String :=
  "\"" ++ String.ofList (text.toList.flatMap escapeChar) ++ "\""

mutual

def compact : Json → String
  | null => "null"
  | bool value => if value then "true" else "false"
  | number digits => digits
  | string text => quote text
  | unpairedSurrogate => quote ""
  | array [] => "[]"
  | array (item :: rest) => "[" ++ compact item ++ compactItems rest ++ "]"
  | object [] => "\x7b\x7d"
  | object ((key, value) :: rest) =>
      "\x7b" ++ quote key ++ ":" ++ compact value ++ compactFields rest ++ "\x7d"

def compactItems : List Json → String
  | [] => ""
  | item :: rest => "," ++ compact item ++ compactItems rest

def compactFields : List (String × Json) → String
  | [] => ""
  | (key, value) :: rest => "," ++ quote key ++ ":" ++ compact value ++ compactFields rest

end

/-- A line break and the blanks of a level. -/
def newLine (level : Nat) : String := "\n" ++ String.ofList (List.replicate (2 * level) ' ')

mutual

def prettyAt (level : Nat) : Json → String
  | array (item :: rest) =>
      "[" ++ newLine (level + 1) ++ prettyAt (level + 1) item ++ prettyItems (level + 1) rest ++
        newLine level ++ "]"
  | object ((key, value) :: rest) =>
      "\x7b" ++ newLine (level + 1) ++ quote key ++ ": " ++ prettyAt (level + 1) value ++
        prettyFields (level + 1) rest ++ newLine level ++ "\x7d"
  | other => compact other

def prettyItems (level : Nat) : List Json → String
  | [] => ""
  | item :: rest => "," ++ newLine level ++ prettyAt level item ++ prettyItems level rest

def prettyFields (level : Nat) : List (String × Json) → String
  | [] => ""
  | (key, value) :: rest =>
      "," ++ newLine level ++ quote key ++ ": " ++ prettyAt level value ++
        prettyFields level rest

end

/-- The indented text, ended by a line break. -/
def pretty (value : Json) : String := prettyAt 0 value ++ "\n"

end RestContract.Json
