/-!
The tokens and the trees of YAML. The structure that indentation expresses is explicit in
the tokens: a block collection starts and ends with a token of its own. In a tree anchors
are of type `ρ`: the names they are written with, or the numbers that stand for them once
aliases are resolved.
-/
namespace RestContract.Yaml

inductive ScalarStyle where
  | plain | singleQuoted | doubleQuoted | literal | folded
deriving DecidableEq, Repr

inductive Token where
  | versionDirective (major minor : Nat)
  | tagDirective (handle expansion : String)
  | documentStart
  | documentEnd
  | blockSequenceStart
  | blockMappingStart
  | blockEnd
  | flowSequenceStart
  | flowSequenceEnd
  | flowMappingStart
  | flowMappingEnd
  | blockEntry
  | flowEntry
  | key
  | value
  | alias (name : String)
  | anchor (name : String)
  | tag (handle suffix : String)
  | scalar (style : ScalarStyle) (text : String)
deriving DecidableEq, Repr

structure Properties (ρ : Type) where
  anchor : Option ρ := none
  tag : Option String := none

inductive Node (ρ : Type) where
  | alias (anchor : ρ)
  | scalar (properties : Properties ρ) (style : ScalarStyle) (text : String)
  | sequence (properties : Properties ρ) (items : List (Node ρ))
  | mapping (properties : Properties ρ) (entries : List (Node ρ × Node ρ))

namespace Node

variable {ρ : Type}

/-- Stands where a node is left out. -/
def empty : Node ρ := .scalar {} .plain ""

end Node

end RestContract.Yaml
