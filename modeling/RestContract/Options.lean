import RestContract.Data.Node
import RestContract.Json.Decoding
import RestContract.Text.CaseMapping

/-!
Compiler options. Every option has a default, and an option that is not declared
here is refused.
-/
namespace RestContract

/-- What happens when two origins want one schema name: the compilation fails, or
the later origin takes a qualified name. -/
inductive CollisionPolicy where
  | error
  | qualify
  deriving DecidableEq, Repr

namespace CollisionPolicy

def name : CollisionPolicy → String
  | error => "error"
  | qualify => "qualify"

def ofName? : String → Option CollisionPolicy
  | "error" => some error
  | "qualify" => some qualify
  | _ => none

/-- The policy of a name in any case; a failure is the name in lower case. -/
def parse (text : String) : Except String CollisionPolicy :=
  match ofName? (Text.asciiLower text) with
  | some policy => .ok policy
  | none => .error (Text.asciiLower text)

def unknownMessage (lowerName : String) : String :=
  s!"unknown collision policy `{lowerName}` (expected `error` or `qualify`)"

def ofNode? {ν : Type} [DataNode ν] (node : ν) : Option CollisionPolicy :=
  (DataNode.choice? node).bind ofName?

end CollisionPolicy

structure CompilerOptions where
  version : String := "1.0.0"
  collisionPolicy : CollisionPolicy := .error
  strict : Bool := false
  only : Option String := none
  deriving DecidableEq, Repr

namespace CompilerOptions

def fieldNames : List String := ["version", "collision_policy", "strict", "only"]

def ofNode? {ν : Type} [DataNode ν] (node : ν) : Option CompilerOptions := do
  let r ← DataNode.record? fieldNames node
  guard (r.fields.all fun (key, _) => fieldNames.contains key)
  return ⟨← r.withDefault? "version" "1.0.0" DataNode.text?,
    ← r.withDefault? "collision_policy" .error CollisionPolicy.ofNode?,
    ← r.withDefault? "strict" false DataNode.flag?, ← r.trailing? "only" DataNode.text?⟩

def toJson (o : CompilerOptions) : Json :=
  .object [("version", .string o.version),
    ("collision_policy", .string o.collisionPolicy.name), ("strict", .bool o.strict),
    ("only", match o.only with | some name => .string name | none => .null)]

end CompilerOptions

end RestContract
