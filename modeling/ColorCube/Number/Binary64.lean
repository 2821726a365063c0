import ColorCube.Number.Digits
import ColorCube.Number.Rounding

/-!
# Double-precision numbers

The least positive double is 2^-1074, and every finite double is a whole number of such units with a
sign. The doubles near a magnitude of `u` units lie `spacing u` units apart: one unit for the small
ones, and above that as far apart as 53 binary places make them. A magnitude is a multiple of its own
spacing below the bound, so that reading, dividing and printing are arithmetic on natural numbers.

There is one value for "not a number": nothing here tells two of them apart.
-/

namespace ColorCube

/-- The binary place, after the point, of the least positive double. -/
@[irreducible] def leastPlace : Nat := 1074

/-- How many units of 2^-1074 make 1. -/
def unitsPerOne : Nat := 2 ^ leastPlace

/-- The units in 2^1024, which is the first power of two past the finite doubles. -/
@[irreducible] def magnitudeBound : Nat := 2 ^ (leastPlace + 1024)

/-- The distance, in units, between neighbouring doubles around a magnitude of `u` units. -/
def spacing (u : Nat) : Nat := 2 ^ (u.log2 - 52)

theorem unitsPerOne_pos : 0 < unitsPerOne := Nat.two_pow_pos leastPlace

theorem magnitudeBound_pos : 0 < magnitudeBound := by
  unfold magnitudeBound
  exact Nat.two_pow_pos _

theorem spacing_pos (u : Nat) : 0 < spacing u := Nat.two_pow_pos _

theorem spacing_dvd_mul_two_pow {m : Nat} (e : Nat) (h : m ≤ 2 ^ 53) :
    spacing (m * 2 ^ e) ∣ m * 2 ^ e := by
  rcases Nat.lt_or_eq_of_le h with hm | rfl
  · rcases Nat.eq_zero_or_pos m with rfl | hp
    · simp
    · have hu : m * 2 ^ e ≠ 0 := Nat.mul_ne_zero (by omega) (Nat.ne_of_gt (Nat.two_pow_pos e))
      have hl : (m * 2 ^ e).log2 < 53 + e := by
        rw [Nat.log2_lt hu, Nat.pow_add]
        exact Nat.mul_lt_mul_of_pos_right hm (Nat.two_pow_pos e)
      exact Nat.dvd_trans (Nat.pow_dvd_pow 2 (by omega)) (Nat.dvd_mul_left (2 ^ e) m)
  · rw [← Nat.pow_add, spacing, Nat.log2_two_pow]
    exact Nat.pow_dvd_pow 2 (by omega)

/-- The number of units nearest to `n / d` among the multiples of the spacing there. -/
def roundUnits (n d : Nat) : Nat :=
  nearestEven n (d * spacing (n / d)) * spacing (n / d)

theorem nearestEven_spacing_le (n d : Nat) : nearestEven n (d * spacing (n / d)) ≤ 2 ^ 53 := by
  rcases Nat.eq_zero_or_pos d with rfl | hd
  · refine Nat.le_trans (nearestEven_le_succ n _) ?_
    simp
  · apply nearestEven_le_of_lt_mul
    have hq : n < d * (n / d + 1) := Nat.lt_mul_div_succ n hd
    have hp : n / d + 1 ≤ spacing (n / d) * 2 ^ 53 := by
      rw [spacing, ← Nat.pow_add]
      exact Nat.le_trans (Nat.lt_log2_self) (Nat.pow_le_pow_right (by decide) (by omega))
    calc n < d * (n / d + 1) := hq
      _ ≤ d * (spacing (n / d) * 2 ^ 53) := Nat.mul_le_mul_left d hp
      _ = d * spacing (n / d) * 2 ^ 53 := (Nat.mul_assoc ..).symm

theorem spacing_dvd_roundUnits (n d : Nat) : spacing (roundUnits n d) ∣ roundUnits n d :=
  spacing_dvd_mul_two_pow _ (nearestEven_spacing_le n d)

/-- The absolute value of a finite double. -/
structure Magnitude where
  units : Nat
  lt_bound : units < magnitudeBound
  spacing_dvd : spacing units ∣ units
  deriving DecidableEq

namespace Magnitude

theorem ext {a b : Magnitude} (h : a.units = b.units) : a = b := by
  cases a; cases b; simp_all

def zero : Magnitude := ⟨0, magnitudeBound_pos, Nat.dvd_zero _⟩

@[simp] theorem units_zero : zero.units = 0 := rfl

/-- The magnitude nearest to `n / d` units, or none when that is too large for a finite double. -/
def ofQuotient? (n d : Nat) : Option Magnitude :=
  if h : roundUnits n d < magnitudeBound then
    some ⟨roundUnits n d, h, spacing_dvd_roundUnits n d⟩
  else none

/-- The place of a magnitude in ascending order, which is also its exponent and fraction field. -/
def toCode (m : Magnitude) : Nat :=
  (m.units.log2 - 52) * 2 ^ 52 + m.units / spacing m.units

theorem mul_two_pow_lt_bound {m e : Nat} (hm : m < 2 ^ 53) (he : e ≤ 2045) :
    m * 2 ^ e < magnitudeBound := by
  have hb : 53 + e ≤ leastPlace + 1024 := by simp only [leastPlace]; omega
  calc m * 2 ^ e < 2 ^ 53 * 2 ^ e := Nat.mul_lt_mul_of_pos_right hm (Nat.two_pow_pos e)
    _ = 2 ^ (53 + e) := (Nat.pow_add 2 53 e).symm
    _ ≤ magnitudeBound := by
      unfold magnitudeBound
      exact Nat.pow_le_pow_right (by decide) hb

/-- The magnitude at a place of the ascending order, or none past the last finite one. -/
def ofCode? (c : Nat) : Option Magnitude :=
  if h : c < 2047 * 2 ^ 52 then
    some ⟨(c - (c / 2 ^ 52 - 1) * 2 ^ 52) * 2 ^ (c / 2 ^ 52 - 1),
      mul_two_pow_lt_bound (by omega) (by omega), spacing_dvd_mul_two_pow _ (by omega)⟩
  else none

end Magnitude

/-- A double-precision number. The flag is the sign bit: true for a minus. -/
inductive Binary64 where
  | nan
  | infinite (negative : Bool)
  | finite (negative : Bool) (magnitude : Magnitude)
  deriving DecidableEq

namespace Binary64

def zero (negative : Bool) : Binary64 := .finite negative .zero

/-- The double nearest to `n / d`, with the given sign; infinite when that is too large. -/
def ofQuotient (negative : Bool) (n d : Nat) : Binary64 :=
  (Magnitude.ofQuotient? (n * unitsPerOne) d).elim (.infinite negative) (.finite negative)

def ofNat (n : Nat) : Binary64 := ofQuotient false n 1

def isFinite : Binary64 → Bool
  | .finite .. => true
  | _ => false

/-- Above zero, and neither infinite nor not a number. -/
def isPositiveFinite : Binary64 → Bool
  | .finite negative m => !negative && m.units != 0
  | _ => false

/-- Equality of numbers: not-a-number equals nothing, and the two zeros are equal. -/
def numericallyEqual : Binary64 → Binary64 → Bool
  | .infinite s, .infinite t => s == t
  | .finite s a, .finite t b => a == b && (s == t || a.units == 0)
  | _, _ => false

/-- The quotient, rounded to nearest. -/
def divide : Binary64 → Binary64 → Binary64
  | .nan, _ | _, .nan => .nan
  | .infinite _, .infinite _ => .nan
  | .infinite s, .finite t _ => .infinite (s != t)
  | .finite s _, .infinite t => zero (s != t)
  | .finite s a, .finite t b =>
    if b.units ≠ 0 then ofQuotient (s != t) a.units b.units
    else if a.units ≠ 0 then .infinite (s != t)
    else .nan

instance : Div Binary64 := ⟨divide⟩

theorem div_finite (s t : Bool) (a b : Magnitude) (h : b.units ≠ 0) :
    Binary64.finite s a / Binary64.finite t b = ofQuotient (s != t) a.units b.units := by
  show divide _ _ = _
  simp [divide, h]

/-- The interchange format: sign bit, exponent field and fraction field. -/
def toBits : Binary64 → UInt64
  | .nan => .ofNat (2047 * 2 ^ 52 + 2 ^ 51)
  | .infinite s => .ofNat (s.toNat * 2 ^ 63 + 2047 * 2 ^ 52)
  | .finite s m => .ofNat (s.toNat * 2 ^ 63 + m.toCode)

def ofBits (b : UInt64) : Binary64 :=
  let negative := decide (2 ^ 63 ≤ b.toNat)
  let code := b.toNat % 2 ^ 63
  match Magnitude.ofCode? code with
  | some m => .finite negative m
  | none => if code = 2047 * 2 ^ 52 then .infinite negative else .nan

end Binary64

end ColorCube
