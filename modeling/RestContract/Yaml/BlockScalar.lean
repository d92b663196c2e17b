import RestContract.Yaml.Cursor

/-!
Block scalars: a header line, then all lines that are indented far enough. Where
the header does not give the indentation it is that of the first line with
content, or more if an empty line before it is longer.
-/
namespace RestContract.Yaml

/-- What happens to the line breaks at the end. -/
inductive Chomping where
  | strip | clip | keep
deriving DecidableEq, Repr

structure BlockHeader where
  chomping : Chomping := .clip
  indentation : Option Nat := none

def chomping? : List Char → Option Chomping
  | '+' :: _ => some .keep
  | '-' :: _ => some .strip
  | _ => none

def indentationDigit? : List Char → Option Nat
  | c :: _ => if c.isDigit then some (c.toNat - '0'.toNat) else none
  | [] => none

/-- The two marks of a header in either order; the indentation is not zero. -/
def blockHeader? (cursor : Cursor) : Option (BlockHeader × Cursor) :=
  let (chomping, indentation, cursor) :=
    match chomping? cursor.rest with
    | some chomping =>
        let cursor := cursor.skip 1
        match indentationDigit? cursor.rest with
        | some n => (chomping, some n, cursor.skip 1)
        | none => (chomping, none, cursor)
    | none =>
        match indentationDigit? cursor.rest with
        | some n =>
            let cursor := cursor.skip 1
            match chomping? cursor.rest with
            | some chomping => (chomping, some n, cursor.skip 1)
            | none => (.clip, some n, cursor)
        | none => (.clip, none, cursor)
  if indentation == some 0 then none
  else (restOfLine? cursor).map (⟨chomping, indentation⟩, ·)

/-- The largest indentation of the lines up to the first with content. A tab among
the leading spaces is refused. -/
def detectIndentation? (largest column : Nat) : List Char → Option Nat
  | [] => some (max largest column)
  | c :: rest =>
      if c == ' ' then detectIndentation? largest (column + 1) rest
      else if c == '\t' then none
      else if isBreak c then detectIndentation? (max largest column) 0 rest
      else some (max largest column)

/-- The lines read so far. The break that ended the last line and those of the
empty lines after it wait for the next line, which decides how they are joined. -/
structure BlockLines where
  found : List Char := []
  lastBreak : List Char := []
  emptyLines : List Char := []
  lastIndented : Bool := false

namespace BlockLines

/-- Start a line whose first character is given. -/
def startLine (folded : Bool) (c : Char) (b : BlockLines) : BlockLines :=
  let joined :=
    if folded && b.lastBreak == ['\n'] && !b.lastIndented && !isBlank c then
      if b.emptyLines.isEmpty then [' '] else b.emptyLines
    else b.lastBreak ++ b.emptyLines
  { found := c :: (joined.reverse ++ b.found), lastIndented := isBlank c }

def chomp (chomping : Chomping) (b : BlockLines) : String :=
  let tail :=
    match chomping with
    | .strip => []
    | .clip => b.lastBreak
    | .keep => b.lastBreak ++ b.emptyLines
  String.ofList (b.found.reverse ++ tail)

end BlockLines

/-- Read lines that are indented by `indent`; `within` tells that the indentation
of the current one has been passed. -/
def blockFrom (folded : Bool) (indent : Nat) (lines : BlockLines) (within : Bool) (mark : Mark) :
    List Char → Option (BlockLines × Cursor)
  | [] => some (lines, ⟨[], mark⟩)
  | c :: rest =>
      if isBreak c then
        let lines :=
          if within then { lines with lastBreak := [c] }
          else { lines with emptyLines := lines.emptyLines ++ [c] }
        blockFrom folded indent lines false (mark.after c) rest
      else if within then
        blockFrom folded indent { lines with found := c :: lines.found } true (mark.after c) rest
      else if mark.column < indent then
        if c == ' ' then blockFrom folded indent lines false (mark.after c) rest
        else if c == '\t' then none
        else some (lines, ⟨c :: rest, mark⟩)
      else blockFrom folded indent (lines.startLine folded c) true (mark.after c) rest

/-- Read what stands behind the indicator of a block scalar, where a line of the
scalar needs at least the indentation `least`. -/
def blockScalar? (folded : Bool) (least : Nat) (cursor : Cursor) : Option (String × Cursor) := do
  let (header, cursor) ← blockHeader? cursor
  let indent ←
    match header.indentation with
    | some n => some (least - 1 + n)
    | none => (detectIndentation? 0 cursor.column cursor.rest).map (max least)
  let (lines, cursor) ← blockFrom folded indent {} false cursor.mark cursor.rest
  return (lines.chomp header.chomping, cursor)

end RestContract.Yaml
