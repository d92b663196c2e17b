import RestContract.Files.Basic
import RestContract.Files.Path
import RestContract.Json.Reading
import RestContract.Source.Basic
import RestContract.Text.CaseMapping
import RestContract.Yaml.Decoding

/-!
Contract sources in files. A file is read as JSON if its extension says so, in any
case, and as YAML otherwise.
-/
namespace RestContract

inductive SourceFormat where
  | yaml
  | json
  deriving DecidableEq, Repr

namespace SourceFormat

def name : SourceFormat → String
  | yaml => "YAML"
  | json => "JSON"

def ofPath (path : String) : SourceFormat :=
  match fileExtension? path with
  | some extension => if Text.equalIgnoringAsciiCase extension "json" then json else yaml
  | none => yaml

/-- The source that a text in this format describes. -/
def read? (format : SourceFormat) (text : String) : Option ContractSource :=
  match format with
  | yaml => (Yaml.View.ofText? text).bind ContractSource.ofNode?
  | json => (Json.parse text).bind ContractSource.ofNode?

end SourceFormat

inductive SourceError where
  | unreadable (path : String) (cause : FileError)
  | invalid (path : String) (format : SourceFormat)
  deriving DecidableEq, Repr

def SourceError.message : SourceError → String
  | unreadable path cause => s!"failed to read {path}: {cause.message}"
  | invalid path format => s!"invalid {format.name} in {path}"

/-- The source in a file, whose text is read by `read?` in the format of the path. -/
def ContractSource.load {m : Type → Type} [Monad m]
    (read? : SourceFormat → String → Option ContractSource) (files : FileAccess m)
    (path : String) : m (Except SourceError ContractSource) := do
  match ← files.readText path with
  | .error cause => return .error (.unreadable path cause)
  | .ok text =>
      let format := SourceFormat.ofPath path
      match read? format text with
      | some source => return .ok source
      | none => return .error (.invalid path format)

end RestContract
