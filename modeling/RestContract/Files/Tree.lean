import RestContract.Files.Basic
import RestContract.Files.Path

/-!
A tree of files as a model of file access. A place is the list of names that lead
to it from the top. The tree lists the places of its folders, the contents of its
files by place, and the place where relative paths start.
-/
namespace RestContract

/-- The names on the way to a folder or a file. -/
abbrev Place := List String

inductive FileContent where
  | text (value : String)
  /-- Bytes that are no text. -/
  | binary (bytes : List UInt8)
  deriving DecidableEq

structure FileTree where
  folders : List Place
  files : List (Place × FileContent)
  workingFolder : Place

/-- The longest name and the longest path that the system accepts, in bytes. -/
def maxNameBytes : Nat := 255

def maxPathBytes : Nat := 4095

namespace FileTree

def isFolder (t : FileTree) (place : Place) : Bool := place.isEmpty || t.folders.contains place

def content? (t : FileTree) (place : Place) : Option FileContent := t.files.lookup place

/-- A path that no file system call accepts. -/
def pathError? (path : String) : Option FileError :=
  if path.toList.contains '\x00' then some .nulInName
  else if maxPathBytes < path.utf8ByteSize then some .nameTooLong
  else if path.isEmpty then some .notFound
  else none

def startOf (t : FileTree) (p : PathParts) : Place := if p.absolute then [] else t.workingFolder

/-- The place one part further, from the place of a folder. -/
def advance (t : FileTree) (place : Place) (part : String) : Except FileError Place :=
  if !t.isFolder place then .error .notDirectory
  else if part == "." then .ok place
  else if part == ".." then .ok place.dropLast
  else if maxNameBytes < part.utf8ByteSize then .error .nameTooLong
  else
    let next := place ++ [part]
    if t.isFolder next || (t.content? next).isSome then .ok next else .error .notFound

def walk (t : FileTree) : Place → List String → Except FileError Place
  | place, [] => .ok place
  | place, part :: rest =>
      match t.advance place part with
      | .ok next => t.walk next rest
      | .error e => .error e

/-- The place of an existing folder or file. -/
def locate (t : FileTree) (path : String) : Except FileError Place :=
  match pathError? path with
  | some e => .error e
  | none =>
      let p := PathParts.ofText path
      t.walk (t.startOf p) (if hasTrailingSlash path then p.parts ++ ["."] else p.parts)

def readText (t : FileTree) (path : String) : Except FileError String :=
  match t.locate path with
  | .error e => .error e
  | .ok place =>
      match t.content? place with
      | some (.text value) => .ok value
      | some (.binary _) => .error .notText
      | none => .error .isDirectory

def isFile (t : FileTree) (path : String) : Bool :=
  match t.locate path with
  | .ok place => (t.content? place).isSome
  | .error _ => false

def isFolderPath (t : FileTree) (p : PathParts) : Bool :=
  match t.walk (t.startOf p) p.parts with
  | .ok place => t.isFolder place
  | .error _ => false

/-- Create one folder, whose enclosing folder must be there. -/
def createFolder (t : FileTree) (p : PathParts) : Except FileError FileTree :=
  match p.parts.getLast? with
  | none => .error .exists
  | some name =>
      match t.walk (t.startOf p) p.parts.dropLast with
      | .error e => .error e
      | .ok place =>
          if !t.isFolder place then .error .notDirectory
          else if name == "." || name == ".." then .error .exists
          else if maxNameBytes < name.utf8ByteSize then .error .nameTooLong
          else
            let new := place ++ [name]
            if t.isFolder new || (t.content? new).isSome then .error .exists
            else .ok { t with folders := new :: t.folders }

/-- Create a folder or accept one that is there. -/
def ensureFolder (t : FileTree) (p : PathParts) : Except FileError FileTree :=
  match t.createFolder p with
  | .ok t => .ok t
  | .error e => if t.isFolderPath p then .ok t else .error e

/-- Create a folder with the folders around it, going up at most so many levels. -/
def createFoldersWithin : Nat → FileTree → PathParts → Except FileError FileTree
  | 0, _, _ => .error .notFound
  | levels + 1, t, p =>
      if p.parts.isEmpty && !p.absolute then .ok t
      else
        match t.createFolder p with
        | .ok t => .ok t
        | .error .notFound =>
            match p.parent? with
            | none => .error (.other "failed to create whole tree")
            | some parent =>
                match createFoldersWithin levels t parent with
                | .error e => .error e
                | .ok t => t.ensureFolder p
        | .error e => if t.isFolderPath p then .ok t else .error e

def createFolders (t : FileTree) (path : String) : Except FileError FileTree :=
  if path.isEmpty then .ok t
  else
    match pathError? path with
    | some e => .error e
    | none =>
        let p := PathParts.ofText path
        createFoldersWithin (p.parts.length + 1) t p

def setFile (t : FileTree) (place : Place) (content : FileContent) : FileTree :=
  { t with files := (place, content) :: t.files.filter (·.1 != place) }

def writeText (t : FileTree) (path : String) (text : String) : Except FileError FileTree :=
  match pathError? path with
  | some e => .error e
  | none =>
      let p := PathParts.ofText path
      match p.parts.getLast? with
      | none => .error .isDirectory
      | some name =>
          match t.walk (t.startOf p) p.parts.dropLast with
          | .error e => .error e
          | .ok place =>
              if !t.isFolder place then .error .notDirectory
              else if name == "." || name == ".." || hasTrailingSlash path then
                .error .isDirectory
              else if maxNameBytes < name.utf8ByteSize then .error .nameTooLong
              else if t.isFolder (place ++ [name]) then .error .isDirectory
              else .ok (t.setFile (place ++ [name]) (.text text))

/-- Run a change that may fail; a failure leaves the tree as it was. -/
def attempt (change : FileTree → Except FileError FileTree) :
    StateM FileTree (Except FileError Unit) := fun t =>
  match change t with
  | .ok t => (.ok (), t)
  | .error e => (.error e, t)

/-- File access to a tree. -/
def fileAccess : FileAccess (StateM FileTree) where
  readText path := fun t => (t.readText path, t)
  isFile path := fun t => (t.isFile path, t)
  createFolders path := attempt (·.createFolders path)
  writeText path text := attempt (·.writeText path text)

/-- The places of the enclosing folders, outermost first. -/
def enclosing (place : Place) : List Place :=
  (List.range place.length).map place.take

/-- Put a file into the tree together with the folders around it. -/
def plant (t : FileTree) (place : Place) (content : FileContent) : FileTree :=
  let folders := (enclosing place).filter fun folder => !t.isFolder folder
  { t with folders := t.folders ++ folders }.setFile place content

/-- A tree with nothing but the folder where relative paths start. -/
def bare (workingFolder : Place) : FileTree :=
  ⟨(enclosing workingFolder ++ [workingFolder]).filter (! ·.isEmpty), [], workingFolder⟩

end FileTree

end RestContract
