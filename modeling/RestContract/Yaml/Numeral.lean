import RestContract.Text.Character

/-!
Texts that a reader of YAML would take for something other than text: null,
truth values, integers and floating point numbers.
-/
namespace RestContract.Yaml

open Text (numeral?)

def nullWords : List String := ["null", "Null", "NULL", "~"]

def trueWords : List String := ["true", "True", "TRUE"]

def falseWords : List String := ["false", "False", "FALSE"]

/-- The largest unsigned and the largest negative magnitude of an integer. -/
def maxUnsigned : Nat := Nat.pow 2 128 - 1

def maxNegative : Nat := Nat.pow 2 127

/-- An integer with the mark of its base. -/
def isMarkedInteger (bound : Nat) : List Char → Bool
  | '0' :: 'x' :: digits => (numeral? 16 digits).any (· ≤ bound)
  | '0' :: 'o' :: digits => (numeral? 8 digits).any (· ≤ bound)
  | '0' :: 'b' :: digits => (numeral? 2 digits).any (· ≤ bound)
  | _ => false

def isBasedInteger : List Char → Bool
  | '-' :: rest => isMarkedInteger maxNegative rest
  | '+' :: rest => isMarkedInteger maxUnsigned rest
  | cs => isMarkedInteger maxUnsigned cs

def dropSign : List Char → List Char
  | '+' :: rest => rest
  | '-' :: rest => rest
  | cs => cs

/-- Decimal digits behind a superfluous zero: no number, but easily taken for one. -/
def isZeroPadded (cs : List Char) : Bool :=
  match dropSign cs with
  | '0' :: c :: rest => (c :: rest).all Char.isDigit
  | _ => false

/-- A decimal number as digits and a power of ten. -/
structure Decimal where
  digits : Nat
  exponent : Int

def decimalValue (digits : List Char) : Nat :=
  digits.foldl (fun n c => n * 10 + (c.toNat - '0'.toNat)) 0

def exponent? : List Char → Option Int
  | [] => some 0
  | c :: rest =>
      if c == 'e' || c == 'E' then
        let digits := dropSign rest
        if digits.isEmpty || !digits.all Char.isDigit then none
        else if rest.head? == some '-' then some (-(decimalValue digits : Int))
        else some (decimalValue digits : Int)
      else none

/-- Digits with at most one point among them, at least one digit, and an exponent. -/
def decimal? (cs : List Char) : Option Decimal :=
  let whole := cs.takeWhile Char.isDigit
  match cs.dropWhile Char.isDigit with
  | '.' :: rest =>
      let fraction := rest.takeWhile Char.isDigit
      if whole.isEmpty && fraction.isEmpty then none
      else
        (exponent? (rest.dropWhile Char.isDigit)).map fun e =>
          ⟨decimalValue (whole ++ fraction), e - fraction.length⟩
  | rest => if whole.isEmpty then none else (exponent? rest).map (⟨decimalValue whole, ·⟩)

/-- The number rounds to a finite value of double precision, that is, it is nearer
to the largest one than to the power of two after it. -/
def Decimal.isFinite (d : Decimal) : Bool :=
  let places : Int := (Nat.toDigits 10 d.digits).length
  if d.digits = 0 then true
  else if places + d.exponent ≤ 308 then true
  else if 310 < places + d.exponent then false
  else
    let limit := Nat.pow 2 1024 - Nat.pow 2 970
    if 0 ≤ d.exponent then d.digits * Nat.pow 10 d.exponent.toNat < limit
    else d.digits < limit * Nat.pow 10 (-d.exponent).toNat

def isFiniteDecimal (cs : List Char) : Bool := (decimal? (dropSign cs)).any Decimal.isFinite

def infinityWords : List String := [".inf", ".Inf", ".INF"]

def nanWords : List String := [".nan", ".NaN", ".NAN"]

def isFloat (cs : List Char) : Bool :=
  infinityWords.contains (String.ofList (dropSign cs)) || nanWords.contains (String.ofList cs) ||
    isFiniteDecimal cs

/-- Not recognisably a text when written without quotes. -/
def looksTyped (text : String) : Bool :=
  let cs := text.toList
  text.isEmpty || nullWords.contains text || trueWords.contains text ||
    falseWords.contains text || isBasedInteger cs || isZeroPadded cs || isFloat cs

end RestContract.Yaml
