import ColorCube.Number.Fixed

/-!
# The fewest digits

A number in a message is written with the fewest decimal digits that read back to the same double. Of
those decimals the one nearest to the number is taken, and the larger of two equally near ones. All
digits stand in place: zeros fill the gap to the point and there is no exponent.
-/

namespace ColorCube

/-- A decimal numeral: `digits * 10 ^ place / 10 ^ 324`. -/
structure Numeral where
  digits : Nat
  place : Nat
  deriving DecidableEq, Repr

namespace Magnitude

/-- Twice the distance from a magnitude down to the next smaller one; half as far below a power of
two, where the spacing changes. -/
def gapBelow (m : Magnitude) : Nat :=
  let s := spacing m.units
  if m.units = 2 ^ 52 * s ∧ 1 < s then s else 2 * s

/-- Whether every number in the closed range from `4 * units - gapBelow` quarter units up, and not only
in its inside, reads back: that is so when the magnitude is the even neighbour of both ends. -/
def ownsEnds (m : Magnitude) : Bool := m.units / spacing m.units % 2 = 0

def readsBack (m : Magnitude) (n scale : Nat) : Bool :=
  let low := (4 * m.units - m.gapBelow) * scale
  let high := (4 * m.units + 2 * spacing m.units) * scale
  if m.ownsEnds then low ≤ n && n ≤ high else low < n && n < high

/-- The numeral at the highest decimal place, from `place` down, that reads back. -/
def shortestFrom (m : Magnitude) : Nat → Numeral
  | 0 => ⟨(4 * m.units * 10 ^ 324 + 2 * unitsPerOne) / (4 * unitsPerOne), 0⟩
  | place + 1 =>
    let step := 4 * unitsPerOne * 10 ^ (place + 1)
    let exact := 4 * m.units * 10 ^ 324
    let floor := exact / step
    let down := m.readsBack (floor * step) (10 ^ 324)
    let up := m.readsBack ((floor + 1) * step) (10 ^ 324)
    if up && (!down || step ≤ 2 * (exact % step)) then ⟨floor + 1, place + 1⟩
    else if down then ⟨floor, place + 1⟩
    else m.shortestFrom place

def shortest (m : Magnitude) : Numeral := m.shortestFrom 633

end Magnitude

def Numeral.positional (n : Numeral) : List Char :=
  let ds := ColorCube.digits n.digits
  if 324 ≤ n.place then ds ++ List.replicate (n.place - 324) '0'
  else
    let fraction := 324 - n.place
    let ds := ds.leftpad (fraction + 1) '0'
    ds.take (ds.length - fraction) ++ '.' :: ds.drop (ds.length - fraction)

namespace Binary64

def toShortest : Binary64 → List Char
  | .nan => ['N', 'a', 'N']
  | .infinite negative => minusIf negative ['i', 'n', 'f']
  | .finite negative m =>
    minusIf negative (if m.units = 0 then ['0'] else m.shortest.positional)

end Binary64

end ColorCube
