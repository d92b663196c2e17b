import RestContract.Data.Node
import RestContract.Toml.Value

/-!
What TOML values mean to a decoder. Every value is present. An alternative is named
by a text, or by the only key of a table whose value is empty.
-/
namespace RestContract.Toml

namespace Value

def text? : Value → Option String
  | text value => some value
  | _ => none

def flag? : Value → Option Bool
  | flag value => some value
  | _ => none

def items? : Value → Option (List Value)
  | array items => some items
  | tables before last => some (before ++ [.table .header last])
  | _ => none

def entries? : Value → Option Entries
  | table _ entries => some entries
  | _ => none

/-- A list or a table without content. -/
def isVacant : Value → Bool
  | array items => items.isEmpty
  | table _ entries => entries.isEmpty
  | _ => false

def choice? : Value → Option String
  | text value => some value
  | table _ [(key, value)] => if value.isVacant then some key else none
  | _ => none

end Value

instance : DataNode Value where
  text? := Value.text?
  flag? := Value.flag?
  items? := Value.items?
  choice? := Value.choice?
  presence? value := some (some value)
  record? _ value := value.entries?.map (⟨·, false⟩)

end RestContract.Toml
