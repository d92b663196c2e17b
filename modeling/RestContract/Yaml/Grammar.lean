import RestContract.Yaml.Lexer
import RestContract.Yaml.Syntax

/-!
From tokens to the tree of a document. A text holds one document at most. A
sequence that is the value of a key may stand at the column of the key; it then has
no tokens of its own for its start and its end.
-/
namespace RestContract.Yaml

/-- What each tag handle stands for. -/
abbrev TagHandles := List (String × String)

def coreTag (name : String) : String := "tag:yaml.org,2002:" ++ name

def defaultHandles : TagHandles := [("!", "!"), ("!!", coreTag "")]

def Tag.expand? (handles : TagHandles) (tag : Tag) : Option String :=
  if tag.handle.isEmpty then some tag.suffix
  else (handles.lookup tag.handle).map (· ++ tag.suffix)

/-- An anchor and a tag in either order, each once at most. -/
def properties? (handles : TagHandles) : List Token → Option (Properties String × List Token)
  | .anchor name :: .tag handle suffix :: ts
  | .tag handle suffix :: .anchor name :: ts =>
      (Tag.expand? handles ⟨handle, suffix⟩).map fun tag => (⟨some name, some tag⟩, ts)
  | .anchor name :: ts => some (⟨some name, none⟩, ts)
  | .tag handle suffix :: ts =>
      (Tag.expand? handles ⟨handle, suffix⟩).map fun tag => (⟨none, some tag⟩, ts)
  | ts => some ({}, ts)

/-- The lone exclamation mark leaves a scalar without a tag. -/
def Properties.ofScalar {ρ : Type} (p : Properties ρ) : Properties ρ :=
  if p.tag == some "!" then { p with tag := none } else p

/-- What a node may start with: block collections only outside flow collections,
and a sequence without tokens of its own only as a key or a value. -/
inductive NodeContext where
  | flow | block | blockPair
deriving DecidableEq

def startsWithAny (stops : List Token) (ts : List Token) : Bool := ts.head?.any stops.contains

/-- A node that is left out behind its properties, of which there is one at least. -/
def bare? (p : Properties String) (ts : List Token) : Option (Node String × List Token) :=
  if p.anchor.isSome || p.tag.isSome then some (.scalar p .plain "", ts) else none

mutual

def node? (handles : TagHandles) :
    Nat → NodeContext → List Token → Option (Node String × List Token)
  | 0, _, _ => none
  | _ + 1, _, .alias name :: ts => some (.alias name, ts)
  | fuel + 1, context, ts => do
      let (p, ts) ← properties? handles ts
      match ts with
      | .blockEntry :: _ =>
          if context == .blockPair then
            let (items, ts) ← indentlessItems? handles fuel ts
            return (.sequence p items, ts)
          else bare? p ts
      | .scalar style text :: ts => return (.scalar p.ofScalar style text, ts)
      | .flowSequenceStart :: rest =>
          let (items, ts) ← flowItems? handles fuel true rest
          return (.sequence p items, ts)
      | .flowMappingStart :: rest =>
          let (entries, ts) ← flowEntries? handles fuel true rest
          return (.mapping p entries, ts)
      | .blockSequenceStart :: rest =>
          if context == .flow then bare? p ts
          else
            let (items, ts) ← blockItems? handles fuel rest
            return (.sequence p items, ts)
      | .blockMappingStart :: rest =>
          if context == .flow then bare? p ts
          else
            let (entries, ts) ← blockEntries? handles fuel rest
            return (.mapping p entries, ts)
      | ts => bare? p ts

/-- A node, unless one of the given tokens shows that it is left out. -/
def nodeUnless? (handles : TagHandles) : Nat → List Token → NodeContext → List Token →
    Option (Node String × List Token)
  | 0, _, _, _ => none
  | fuel + 1, stops, context, ts =>
      if startsWithAny stops ts then some (.empty, ts) else node? handles fuel context ts

/-- The value of a key, if a colon announces one. -/
def valueUnless? (handles : TagHandles) : Nat → List Token → NodeContext → List Token →
    Option (Node String × List Token)
  | 0, _, _, _ => none
  | fuel + 1, stops, context, .value :: ts => nodeUnless? handles fuel stops context ts
  | _ + 1, _, _, ts => some (.empty, ts)

def blockItems? (handles : TagHandles) : Nat → List Token →
    Option (List (Node String) × List Token)
  | 0, _ => none
  | _ + 1, .blockEnd :: ts => some ([], ts)
  | fuel + 1, .blockEntry :: ts => do
      let (item, ts) ← nodeUnless? handles fuel [.blockEntry, .blockEnd] .block ts
      let (items, ts) ← blockItems? handles fuel ts
      return (item :: items, ts)
  | _ + 1, _ => none

def indentlessItems? (handles : TagHandles) : Nat → List Token →
    Option (List (Node String) × List Token)
  | 0, _ => none
  | fuel + 1, .blockEntry :: ts => do
      let (item, ts) ← nodeUnless? handles fuel [.blockEntry, .key, .value, .blockEnd] .block ts
      let (items, ts) ← indentlessItems? handles fuel ts
      return (item :: items, ts)
  | _ + 1, ts => some ([], ts)

def blockEntries? (handles : TagHandles) : Nat → List Token →
    Option (List (Node String × Node String) × List Token)
  | 0, _ => none
  | _ + 1, .blockEnd :: ts => some ([], ts)
  | fuel + 1, .key :: ts => do
      let stops := [.key, .value, .blockEnd]
      let (key, ts) ← nodeUnless? handles fuel stops .blockPair ts
      let (value, ts) ← valueUnless? handles fuel stops .blockPair ts
      let (entries, ts) ← blockEntries? handles fuel ts
      return ((key, value) :: entries, ts)
  | _ + 1, _ => none

/-- The items of a sequence in brackets; all but the first need a comma before
them, and the last may have one behind it. -/
def flowItems? (handles : TagHandles) : Nat → Bool → List Token →
    Option (List (Node String) × List Token)
  | 0, _, _ => none
  | _ + 1, _, .flowSequenceEnd :: ts => some ([], ts)
  | fuel + 1, false, .flowEntry :: ts => flowItems? handles fuel true ts
  | _ + 1, false, _ => none
  | fuel + 1, true, .key :: ts => do
      let (pair, ts) ← flowPair? handles fuel ts
      let (items, ts) ← flowItems? handles fuel false ts
      return (.mapping {} [pair] :: items, ts)
  | fuel + 1, true, ts => do
      let (item, ts) ← node? handles fuel .flow ts
      let (items, ts) ← flowItems? handles fuel false ts
      return (item :: items, ts)

/-- A single pair in place of an item. The token behind an omitted key is passed
over. -/
def flowPair? (handles : TagHandles) : Nat → List Token →
    Option ((Node String × Node String) × List Token)
  | 0, _ => none
  | fuel + 1, ts => do
      let stops := [.flowEntry, .flowSequenceEnd]
      let (key, ts) ←
        if startsWithAny (.value :: stops) ts then some (.empty, ts.tail)
        else node? handles fuel .flow ts
      let (value, ts) ← valueUnless? handles fuel stops .flow ts
      return ((key, value), ts)

/-- The entries of a mapping in braces; a key without its mark has no value. -/
def flowEntries? (handles : TagHandles) : Nat → Bool → List Token →
    Option (List (Node String × Node String) × List Token)
  | 0, _, _ => none
  | _ + 1, _, .flowMappingEnd :: ts => some ([], ts)
  | fuel + 1, false, .flowEntry :: ts => flowEntries? handles fuel true ts
  | _ + 1, false, _ => none
  | fuel + 1, true, .key :: ts => do
      let stops := [.flowEntry, .flowMappingEnd]
      let (key, ts) ← nodeUnless? handles fuel (.value :: stops) .flow ts
      let (value, ts) ← valueUnless? handles fuel stops .flow ts
      let (entries, ts) ← flowEntries? handles fuel false ts
      return ((key, value) :: entries, ts)
  | fuel + 1, true, ts => do
      let (key, ts) ← node? handles fuel .flow ts
      let (entries, ts) ← flowEntries? handles fuel false ts
      return ((key, .empty) :: entries, ts)

end

/-- The directives in front of a document: one version at most, which is 1.1 or
1.2, and each handle once at most. -/
def directives? (versioned : Bool) (handles : TagHandles) :
    List Token → Option (TagHandles × List Token)
  | .versionDirective major minor :: ts =>
      if versioned || major != 1 || (minor != 1 && minor != 2) then none
      else directives? true handles ts
  | .tagDirective handle expansion :: ts =>
      if (handles.lookup handle).isSome then none
      else directives? versioned (handles ++ [(handle, expansion)]) ts
  | ts => some (handles ++ defaultHandles, ts)

def startsDocument : Token → Bool
  | .versionDirective _ _ => true
  | .tagDirective _ _ => true
  | .documentStart => true
  | _ => false

/-- Enough calls for any tree that the tokens can hold. -/
def nodeFuel (ts : List Token) : Nat := 4 * ts.length + 4

/-- The content of a document, and the tokens behind it. -/
def content? (ts : List Token) : Option (Node String × List Token) := do
  if ts.head?.any startsDocument then
    let (handles, ts) ← directives? false [] ts
    match ts with
    | .documentStart :: ts =>
        if ts.head?.all fun t => startsDocument t || t == .documentEnd then return (.empty, ts)
        else node? handles (nodeFuel ts) .block ts
    | _ => none
  else node? defaultHandles (nodeFuel ts) .block ts

/-- The node of the only document; a text without tokens has none. -/
def Node.ofTokens? (ts : List Token) : Option (Option (Node String)) :=
  if ts.isEmpty then some none
  else
    match content? ts with
    | none => none
    | some (node, rest) => if rest.all (· == .documentEnd) then some (some node) else none

end RestContract.Yaml
