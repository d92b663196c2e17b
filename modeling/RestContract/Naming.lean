import RestContract.Text.CaseMapping

/-!
Names and their derived forms. A dotted name has a simple name, its last
segment. An operation name gives an operation identifier in kebab case and, with
its first letter raised, the stem of a synthesized schema name. The simple name
of a base type gives the property that tells its subtypes apart.
-/
namespace RestContract.Naming

open Text

/-- The part after the last dot. -/
def simpleChars (cs : List Char) : List Char := (cs.reverse.takeWhile (· != '.')).reverse

/-- The part before the last dot, if there is a dot. -/
def packageChars (cs : List Char) : Option (List Char) :=
  match cs.reverse.dropWhile (· != '.') with
  | [] => none
  | _ :: rest => some rest.reverse

def simpleName (name : String) : String := String.ofList (simpleChars name.toList)

def packageName (name : String) : Option String := (packageChars name.toList).map String.ofList

def isQualified (name : String) : Bool := name.toList.contains '.'

def startsLower : List Char → Bool
  | [] => false
  | c :: _ => isLowercase c

/-- A hyphen stands before each capital that is followed by a small letter; only
the first character of the name, flagged by `first`, never gets one. -/
def kebabFrom (first : Bool) : List Char → List Char
  | [] => []
  | c :: rest =>
      (if !first && isUppercase c && startsLower rest then ['-'] else []) ++
        toLower c ++ kebabFrom false rest

def kebabCase (name : String) : String := String.ofList (kebabFrom true name.toList)

def pascalCase (name : String) : String :=
  match name.toList with
  | [] => ""
  | c :: rest => String.ofList (toUpper c ++ rest)

/-- The property carried by the subtypes of a concrete base of this simple name. -/
def discriminatorProperty (baseSimpleName : String) : String := "type_" ++ lower baseSimpleName

end RestContract.Naming
