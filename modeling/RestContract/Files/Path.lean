/-!
Paths as texts: their parts, joining them, and the extension of a file name.
-/
namespace RestContract

/-- A path as its parts. Empty parts are dropped, except that a slash at the end
still asks for a folder. -/
structure PathParts where
  absolute : Bool
  parts : List String
  deriving DecidableEq, Repr

def splitSlashes : List Char → List (List Char)
  | [] => [[]]
  | '/' :: rest => [] :: splitSlashes rest
  | c :: rest =>
      match splitSlashes rest with
      | [] => [[c]]
      | part :: parts => (c :: part) :: parts

namespace PathParts

def ofText (path : String) : PathParts where
  absolute := path.toList.head? == some '/'
  parts := ((splitSlashes path.toList).filter (! ·.isEmpty)).map String.ofList

def isDot (part : String) : Bool := part == "."

/-- The parts with inner dots dropped, as the path of a folder is shortened. -/
def normalParts (p : PathParts) : List String :=
  match p.parts with
  | [] => []
  | first :: rest =>
      (if isDot first && p.absolute then [] else [first]) ++ rest.filter (! isDot ·)

/-- The enclosing folder; a path without parts has none. -/
def parent? (p : PathParts) : Option PathParts :=
  match p.normalParts with
  | [] => none
  | parts => some { p with parts := parts.dropLast }

end PathParts

def hasTrailingSlash (path : String) : Bool := path.toList.getLast? == some '/'

/-- A path below a folder. An absolute path stands for itself. -/
def joinPath (folder : String) (name : String) : String :=
  if name.toList.head? == some '/' || folder.isEmpty then name
  else if folder.toList.getLast? == some '/' then folder ++ name
  else folder ++ "/" ++ name

/-- The last part of a path, unless it leads upwards. -/
def fileName? (path : String) : Option String :=
  ((PathParts.ofText path).parts.filter (! PathParts.isDot ·)).getLast?.filter (· != "..")

/-- What follows the last dot of a file name that does not start with it. -/
def fileExtension? (path : String) : Option String :=
  match fileName? path with
  | none => none
  | some name =>
      let reversed := name.toList.reverse
      match reversed.dropWhile (· != '.') with
      | '.' :: _ :: _ => some (String.ofList (reversed.takeWhile (· != '.')).reverse)
      | _ => none

end RestContract
