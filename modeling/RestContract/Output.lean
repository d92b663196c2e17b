import RestContract.Document.Encoding
import RestContract.Files.Basic
import RestContract.Files.Path
import RestContract.Json.Printing
import RestContract.Yaml.Printing

/-!
Contract documents as files: the two formats, the text of a document in each, and
the file that a document is written to.
-/
namespace RestContract

inductive OutputFormat where
  | yaml
  | json
  deriving DecidableEq, Repr

namespace OutputFormat

def extension : OutputFormat → String
  | yaml => "yaml"
  | json => "json"

def ofName? : String → Option OutputFormat
  | "yaml" | "yml" => some yaml
  | "json" => some json
  | _ => none

/-- The format of a name in any case; a failure is the name in lower case. -/
def parse (text : String) : Except String OutputFormat :=
  match ofName? (Text.asciiLower text) with
  | some format => .ok format
  | none => .error (Text.asciiLower text)

def unknownMessage (lowerName : String) : String :=
  s!"unknown format `{lowerName}` (expected `yaml` or `json`)"

end OutputFormat

namespace Document

def render (d : Document) : OutputFormat → String
  | .yaml => Yaml.render d.toJson
  | .json => d.toJson.pretty

def fileName (d : Document) (format : OutputFormat) : String :=
  d.info.title ++ "." ++ format.extension

end Document

/-- A path that could not be written, and why. -/
structure OutputError where
  path : String
  cause : FileError
  deriving DecidableEq, Repr

def OutputError.message (e : OutputError) : String :=
  s!"failed to write {e.path}: {e.cause.message}"

/-- Write the text that `render` gives for a document into a folder, which is created if
needed; the result is the path of the file. -/
def Document.write {m : Type → Type} [Monad m] (render : Document → OutputFormat → String)
    (files : FileAccess m) (folder : String) (d : Document) (format : OutputFormat) :
    m (Except OutputError String) := do
  match ← files.createFolders folder with
  | .error cause => return .error ⟨folder, cause⟩
  | .ok () =>
      let path := joinPath folder (d.fileName format)
      match ← files.writeText path (render d format) with
      | .error cause => return .error ⟨path, cause⟩
      | .ok () => return .ok path

end RestContract
