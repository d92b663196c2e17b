/-!
Characters. Sets of them are given as runs of code points; a run goes from its first
member to its last in equal steps. The runs of a table are listed by their first member,
so a search ends at the first run that starts beyond the code point asked for. Blanks are
those of the Unicode property `White_Space`. Numerals have a base of at most sixteen.
-/
namespace RestContract.Text

structure Run where
  first : Nat
  last : Nat
  stride : Nat

def Run.covers (r : Run) (n : Nat) : Bool :=
  r.first ≤ n && n ≤ r.last && (n - r.first) % r.stride == 0

def covered : List Run → Nat → Bool
  | [], _ => false
  | r :: rest, n => if n < r.first then false else r.covers n || covered rest n

def blankRuns : List Run := [
  ⟨0x9, 0xd, 1⟩, ⟨0x20, 0x20, 1⟩, ⟨0x85, 0x85, 1⟩, ⟨0xa0, 0xa0, 1⟩, ⟨0x1680, 0x1680, 1⟩,
  ⟨0x2000, 0x200a, 1⟩, ⟨0x2028, 0x2029, 1⟩, ⟨0x202f, 0x202f, 1⟩, ⟨0x205f, 0x205f, 1⟩,
  ⟨0x3000, 0x3000, 1⟩]

def isBlank (c : Char) : Bool := covered blankRuns c.toNat

/-- The value of a digit in a base of at most sixteen. -/
def digitValue? (base : Nat) (c : Char) : Option Nat :=
  let value? :=
    if '0' ≤ c && c ≤ '9' then some (c.toNat - '0'.toNat)
    else if 'a' ≤ c && c ≤ 'f' then some (c.toNat - 'a'.toNat + 10)
    else if 'A' ≤ c && c ≤ 'F' then some (c.toNat - 'A'.toNat + 10)
    else none
  value?.filter (· < base)

/-- The number that a nonempty run of digits denotes. -/
def numeral? (base : Nat) : List Char → Option Nat
  | [] => none
  | digits => digits.foldlM (fun n c => (digitValue? base c).map (n * base + ·)) 0

/-- The character with this code, which is neither a surrogate nor too large. -/
def charOfCode? (n : Nat) : Option Char := if n.isValidChar then some (Char.ofNat n) else none

/-- The character whose code is written in hexadecimal. -/
def hexChar? (digits : List Char) : Option Char := (numeral? 16 digits).bind charOfCode?

end RestContract.Text
