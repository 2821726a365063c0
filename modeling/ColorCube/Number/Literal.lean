import ColorCube.Number.Binary64
import ColorCube.Number.Digits

/-!
# Numeric literals

A literal is an optional sign and then either one of the words `inf`, `infinity` and `nan` in any case,
or a decimal: digits with at most one point and at least one digit, and an optional exponent. Its
value is the double nearest to the number it spells.
-/

namespace ColorCube

/-- A literal as it was spelled. A decimal stands for `digits * 10 ^ exponent`. -/
inductive Literal where
  | nan
  | infinity (negative : Bool)
  | decimal (negative : Bool) (digits : Nat) (exponent : Int)
  deriving DecidableEq, Repr

/-- Takes a leading sign off; the flag is true for a minus. -/
def splitSign : List Char → Bool × List Char
  | '-' :: s => (true, s)
  | '+' :: s => (false, s)
  | s => (false, s)

namespace Literal

/-- The number that the digits of an exponent spell. They are read until it has reached 2^16; further
digits are passed over. -/
def exponentValue (s : List Char) : Nat :=
  s.foldl (fun n c => if n < 2 ^ 16 then 10 * n + (c.toNat - '0'.toNat) else n) 0

/-- Reads what may follow the digits: nothing, or `e` and a signed whole number. -/
def exponent? : List Char → Option Int
  | [] => some 0
  | c :: s =>
    let (negative, ds) := splitSign s
    if (c = 'e' ∨ c = 'E') ∧ ds ≠ [] ∧ ds.all Char.isDigit then
      some (if negative then -exponentValue ds else exponentValue ds)
    else none

/-- The digits after a point, if one comes next, and the text that remains. -/
def splitFraction : List Char → List Char × List Char
  | '.' :: s => s.span Char.isDigit
  | s => ([], s)

def decimal? (s : List Char) : Option (Nat × Int) :=
  let (whole, rest) := s.span Char.isDigit
  let (fraction, rest) := splitFraction rest
  if whole ++ fraction = [] then none
  else (exponent? rest).map fun e =>
    (digitsValue (whole ++ fraction), e - fraction.length)

def word? (negative : Bool) (s : List Char) : Option Literal :=
  let w := s.map Char.toLower
  if w = "inf".toList ∨ w = "infinity".toList then some (.infinity negative)
  else if w = "nan".toList then some .nan
  else none

def ofChars? (s : List Char) : Option Literal :=
  let (negative, s) := splitSign s
  match decimal? s with
  | some (digits, exponent) => some (.decimal negative digits exponent)
  | none => word? negative s

end Literal

/-- The double nearest to `digits * 10 ^ exponent`. From 10^310 on every number is infinite and below
10^-330 every number is zero, so no power of ten larger than the digits call for is ever built. -/
def Binary64.ofDecimal (negative : Bool) (digits : Nat) (exponent : Int) : Binary64 :=
  if digits = 0 then .zero negative
  else match exponent with
    | .ofNat e => if 310 ≤ e then .infinite negative else ofQuotient negative (digits * 10 ^ e) 1
    | .negSucc e =>
      if digits.log2 + 330 ≤ e then .zero negative else ofQuotient negative digits (10 ^ (e + 1))

def Literal.value : Literal → Binary64
  | .nan => .nan
  | .infinity negative => .infinite negative
  | .decimal negative digits exponent => .ofDecimal negative digits exponent

end ColorCube
