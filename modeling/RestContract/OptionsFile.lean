import RestContract.Files.Basic
import RestContract.Options
import RestContract.Toml.Decoding
import RestContract.Toml.Reading

/-!
Compiler options in files, written in TOML.
-/
namespace RestContract

inductive OptionsError where
  | unreadable (path : String) (cause : FileError)
  | invalid
  deriving DecidableEq, Repr

def OptionsError.message : OptionsError → String
  | unreadable path cause => s!"failed to read options file {path}: {cause.message}"
  | invalid => "invalid options"

namespace CompilerOptions

def parse (text : String) : Except OptionsError CompilerOptions :=
  match (Toml.read? text).bind ofNode? with
  | some options => .ok options
  | none => .error .invalid

/-- The options in a file, whose text is read by `parse`. -/
def load {m : Type → Type} [Monad m] (parse : String → Except OptionsError CompilerOptions)
    (files : FileAccess m) (path : String) : m (Except OptionsError CompilerOptions) := do
  match ← files.readText path with
  | .error cause => return .error (.unreadable path cause)
  | .ok text => return parse text

end CompilerOptions

end RestContract
