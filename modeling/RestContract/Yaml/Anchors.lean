import RestContract.Yaml.Grammar

/-!
Anchors and aliases. Each anchor gets the number of different names seen before
it, and an alias the number its name has at that point. A number leads to the last
node that has it, so a node may be reached through an alias inside itself.
-/
namespace RestContract.Yaml

abbrev AnchorNumbers := List (String × Nat)

def AnchorNumbers.assign (known : AnchorNumbers) (name : String) : AnchorNumbers :=
  (name, known.length) :: known.filter (·.1 != name)

/-- Number the anchor of a node. -/
def Properties.number (known : AnchorNumbers) (p : Properties String) :
    Properties Nat × AnchorNumbers :=
  match p.anchor with
  | some name => (⟨some known.length, p.tag⟩, known.assign name)
  | none => (⟨none, p.tag⟩, known)

namespace Node

mutual

/-- Replace names by numbers; an alias of a name not seen before has none. -/
def number? (known : AnchorNumbers) : Node String → Option (Node Nat × AnchorNumbers)
  | .alias name => (known.lookup name).map (.alias ·, known)
  | .scalar p style text =>
      let (p, known) := p.number known
      some (.scalar p style text, known)
  | .sequence p items =>
      let (p, known) := p.number known
      (numberItems? known items).map fun (items, known) => (.sequence p items, known)
  | .mapping p entries =>
      let (p, known) := p.number known
      (numberEntries? known entries).map fun (entries, known) => (.mapping p entries, known)

def numberItems? (known : AnchorNumbers) :
    List (Node String) → Option (List (Node Nat) × AnchorNumbers)
  | [] => some ([], known)
  | item :: items =>
      match number? known item with
      | none => none
      | some (item, known) =>
          (numberItems? known items).map fun (items, known) => (item :: items, known)

def numberEntries? (known : AnchorNumbers) :
    List (Node String × Node String) → Option (List (Node Nat × Node Nat) × AnchorNumbers)
  | [] => some ([], known)
  | (key, value) :: entries =>
      match number? known key with
      | none => none
      | some (key, known) =>
          match number? known value with
          | none => none
          | some (value, known) =>
              (numberEntries? known entries).map fun (entries, known) =>
                ((key, value) :: entries, known)

end

mutual

/-- The nodes with an anchor in the order in which they start. -/
def anchored : Node Nat → List (Nat × Node Nat)
  | .alias _ => []
  | .scalar p style text => (p.anchor.map (·, Node.scalar p style text)).toList
  | .sequence p items => (p.anchor.map (·, Node.sequence p items)).toList ++ anchoredItems items
  | .mapping p entries =>
      (p.anchor.map (·, Node.mapping p entries)).toList ++ anchoredEntries entries

def anchoredItems : List (Node Nat) → List (Nat × Node Nat)
  | [] => []
  | item :: items => anchored item ++ anchoredItems items

def anchoredEntries : List (Node Nat × Node Nat) → List (Nat × Node Nat)
  | [] => []
  | (key, value) :: entries => anchored key ++ (anchored value ++ anchoredEntries entries)

end

end Node

/-- A node within its document, whose aliases lead to the nodes of its anchors. -/
structure View where
  anchors : List (Nat × Node Nat)
  node : Node Nat

namespace View

/-- An empty text is read as an empty node. -/
def ofText? (text : String) : Option View := do
  match ← Node.ofTokens? (← tokens? text) with
  | none => return ⟨[], .empty⟩
  | some node =>
      let (root, _) ← node.number? []
      return ⟨root.anchored.reverse, root⟩

def target (v : View) : Node Nat :=
  match v.node with
  | .alias n => (v.anchors.lookup n).getD .empty
  | node => node

def child (v : View) (node : Node Nat) : View := ⟨v.anchors, node⟩

end View

end RestContract.Yaml
