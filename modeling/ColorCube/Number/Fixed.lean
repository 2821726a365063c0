import ColorCube.Number.Binary64
import ColorCube.Number.Digits

/-!
# Six decimal places

A finite number is written as a minus for the sign bit, the whole part, a point and six digits, which
spell the exact value rounded to the nearest millionth, halfway cases to the even one. The sign of a
zero, and of what rounds to zero, stays.
-/

namespace ColorCube

/-- A count of millionths as a decimal with six places. -/
def sixPlaces (n : Nat) : List Char :=
  digits (n / 10 ^ 6) ++ '.' :: (digits (n % 10 ^ 6)).leftpad 6 '0'

/-- The whole number of millionths nearest to a magnitude. -/
def Magnitude.millionths (m : Magnitude) : Nat := nearestEven (m.units * 10 ^ 6) unitsPerOne

def minusIf (negative : Bool) (s : List Char) : List Char := if negative then '-' :: s else s

namespace Binary64

def toFixed : Binary64 → List Char
  | .nan => ['N', 'a', 'N']
  | .infinite negative => minusIf negative ['i', 'n', 'f']
  | .finite negative m => minusIf negative (sixPlaces m.millionths)

end Binary64

end ColorCube
