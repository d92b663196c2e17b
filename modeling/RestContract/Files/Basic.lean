/-!
Access to files, as far as a compilation needs it: reading a text, asking for a
file, creating folders and writing a text. The causes of failure are those of the
operating system, with its wording.
-/
namespace RestContract

inductive FileError where
  | notFound
  | exists
  | notDirectory
  | isDirectory
  | nameTooLong
  | nulInName
  | notText
  | other (text : String)
  deriving DecidableEq, Repr

def FileError.message : FileError → String
  | notFound => "No such file or directory (os error 2)"
  | .exists => "File exists (os error 17)"
  | notDirectory => "Not a directory (os error 20)"
  | isDirectory => "Is a directory (os error 21)"
  | nameTooLong => "File name too long (os error 36)"
  | nulInName => "file name contained an unexpected NUL byte"
  | notText => "stream did not contain valid UTF-8"
  | other text => text

/-- File access in a monad: the real one, or a model. -/
structure FileAccess (m : Type → Type) where
  readText : String → m (Except FileError String)
  isFile : String → m Bool
  createFolders : String → m (Except FileError Unit)
  writeText : String → String → m (Except FileError Unit)

end RestContract
