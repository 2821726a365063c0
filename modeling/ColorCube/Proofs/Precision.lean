import Mathlib.Algebra.Order.Round
import Mathlib.Data.Rat.Floor
import Mathlib.Tactic.FieldSimp
import Mathlib.Tactic.Linarith
import Mathlib.Tactic.NormNum
import Mathlib.Tactic.Positivity
import Mathlib.Tactic.Ring
import ColorCube.Number.Literal
import ColorCube.Proofs.Numerals
import ColorCube.Proofs.Quotients

/-!
# Precision

Two roundings stand between a raw value and the decimal that is printed for it: the quotient by full scale is
rounded to 53 binary places and the result to six decimal places. For raw values and full scales of at most
six digits they are off by less than half a raw step together.
-/

namespace ColorCube

theorem abs_nearestEven_sub_le (n : Nat) {d : Nat} (hd : 0 < d) :
    |(nearestEven n d : ℚ) - n / d| ≤ 1 / 2 := by
  have hq : (0 : ℚ) < d := Nat.cast_pos.mpr hd
  have hle : (2 * n : ℚ) ≤ 2 * (nearestEven n d * d) + d := by
    exact_mod_cast two_mul_le_nearestEven n hd
  have hge : (2 * (nearestEven n d * d) : ℚ) ≤ 2 * n + d := by
    exact_mod_cast two_mul_nearestEven_le n hd
  have he : (nearestEven n d : ℚ) - n / d = (nearestEven n d * d - n) / d := by
    field_simp
  rw [he, abs_div, abs_of_pos hq, div_le_iff₀ hq, abs_le]
  constructor
  · linarith
  · linarith

theorem abs_mul_sub_div {s : Nat} (hs : 0 < s) (n d j : Nat) :
    |((j * s : Nat) : ℚ) - n / d| = |(j : ℚ) - n / (d * s : Nat)| * s := by
  have hpos : (0 : ℚ) < s := Nat.cast_pos.mpr hs
  have he : ((j * s : Nat) : ℚ) - n / d = ((j : ℚ) - n / (d * s : Nat)) * s := by
    push_cast
    field_simp
  rw [he, abs_mul, abs_of_pos hpos]

/-- A rounded number of units lies at most half a spacing from the exact one. -/
theorem abs_roundUnits_sub_le (n : Nat) {d : Nat} (hd : 0 < d) :
    |(roundUnits n d : ℚ) - n / d| ≤ spacing (n / d) / 2 := by
  have hs := spacing_pos (n / d)
  have hround := abs_nearestEven_sub_le n (Nat.mul_pos hd hs)
  rw [roundUnits, abs_mul_sub_div hs]
  calc _ ≤ 1 / 2 * (spacing (n / d) : ℚ) := mul_le_mul_of_nonneg_right hround (Nat.cast_nonneg _)
    _ = spacing (n / d) / 2 := by ring

def Magnitude.value (m : Magnitude) : ℚ := m.units / unitsPerOne

theorem unitsPerOne_cast_pos : (0 : ℚ) < unitsPerOne := Nat.cast_pos.mpr unitsPerOne_pos

/-- Up to 1 there are at least 2^52 steps of the spacing to the unit. -/
theorem spacing_mul_two_pow_le {u : Nat} (h : u ≤ unitsPerOne) : spacing u * 2 ^ 52 ≤ unitsPerOne := by
  have hlog : u.log2 ≤ leastPlace := by
    rcases Nat.eq_zero_or_pos u with rfl | hu
    · simp
    · rw [← Nat.lt_succ_iff, Nat.log2_lt (Nat.ne_of_gt hu)]
      exact Nat.lt_of_le_of_lt h (Nat.pow_lt_pow_right (by decide) (Nat.lt_succ_self _))
  have hplace : 52 ≤ leastPlace := by
    unfold leastPlace
    decide
  rw [spacing, ← Nat.pow_add, unitsPerOne]
  exact Nat.pow_le_pow_right (by decide) (by omega)

namespace Binary64

/-- A quotient of at most 1 is off by at most 2^-53. -/
theorem abs_ofQuotient_sub_le (negative : Bool) {n d : Nat} (hd : 0 < d) (hle : n ≤ d) :
    ∃ m, ofQuotient negative n d = .finite negative m ∧ |m.value - n / d| ≤ 1 / (2 : ℚ) ^ 53 := by
  have hone : 1 < 2 ^ 1024 - 2 ^ 970 := by decide +kernel
  have hlt : n < (2 ^ 1024 - 2 ^ 970) * d :=
    Nat.lt_of_le_of_lt hle ((Nat.lt_mul_iff_one_lt_left hd).mpr hone)
  rw [← isFinite_ofQuotient_iff negative hd, isFinite_ofQuotient] at hlt
  obtain ⟨m, hm, hunits⟩ := ofQuotient_of_lt negative hlt
  refine ⟨m, hm, ?_⟩
  have hU := unitsPerOne_cast_pos
  have hq : (d : ℚ) ≠ 0 := Nat.cast_ne_zero.mpr (Nat.ne_of_gt hd)
  have hsmall : n * unitsPerOne / d ≤ unitsPerOne :=
    Nat.div_le_of_le_mul (Nat.mul_le_mul_right unitsPerOne hle)
  have hspacing : (spacing (n * unitsPerOne / d) : ℚ) * (2 : ℚ) ^ 52 ≤ unitsPerOne := by
    exact_mod_cast spacing_mul_two_pow_le hsmall
  have hround := abs_roundUnits_sub_le (n * unitsPerOne) hd
  have he : m.value - n / d =
      ((roundUnits (n * unitsPerOne) d : ℚ) - (n * unitsPerOne : Nat) / d) / unitsPerOne := by
    rw [Magnitude.value, hunits]
    push_cast
    field_simp
  rw [he, abs_div, abs_of_pos hU, div_le_iff₀ hU]
  calc _ ≤ (spacing (n * unitsPerOne / d) : ℚ) / 2 := hround
    _ ≤ 1 / (2 : ℚ) ^ 53 * unitsPerOne := by linarith

/-- Whole numbers of at most 53 binary places are not rounded. -/
theorem ofNat_eq_finite {n : Nat} (h : n < 2 ^ 53) :
    ∃ m, ofNat n = .finite false m ∧ m.units = n * unitsPerOne := by
  have hdvd : spacing (n * unitsPerOne) ∣ n * unitsPerOne :=
    spacing_dvd_mul_two_pow leastPlace (Nat.le_of_lt h)
  have hround := roundUnits_mul_self Nat.one_pos hdvd
  rw [Nat.mul_one] at hround
  have hlt : n * unitsPerOne < magnitudeBound := by
    refine Magnitude.mul_two_pow_lt_bound h ?_
    unfold leastPlace
    decide
  obtain ⟨m, hm, hunits⟩ := ofQuotient_of_lt false (hround.trans_lt hlt)
  exact ⟨m, hm, hunits.trans hround⟩

end Binary64

theorem Magnitude.abs_millionths_sub_le (m : Magnitude) :
    |(m.millionths : ℚ) / (10 : ℚ) ^ 6 - m.value| ≤ 1 / (2 * (10 : ℚ) ^ 6) := by
  have hround := abs_nearestEven_sub_le (m.units * 10 ^ 6) unitsPerOne_pos
  have he : (m.millionths : ℚ) / (10 : ℚ) ^ 6 - m.value =
      ((nearestEven (m.units * 10 ^ 6) unitsPerOne : ℚ) - (m.units * 10 ^ 6 : Nat) / unitsPerOne) /
        (10 : ℚ) ^ 6 := by
    have hU := unitsPerOne_cast_pos
    rw [millionths, value]
    push_cast
    field_simp
    ring
  rw [he, abs_div, abs_of_pos (by positivity : (0 : ℚ) < (10 : ℚ) ^ 6), div_le_iff₀ (by positivity)]
  linarith

/-- What is printed for a raw value is off by less than half a raw step. -/
theorem Binary64.abs_millionths_div_sub_lt {raw most : Nat} (hraw : raw ≤ most) (hpos : 1 ≤ most)
    (hmost : most ≤ 999999) :
    ∃ m, ofNat raw / ofNat most = .finite false m ∧
      |(m.millionths : ℚ) / (10 : ℚ) ^ 6 * most - raw| < 1 / 2 := by
  have hU := unitsPerOne_pos
  obtain ⟨a, ha, haU⟩ := ofNat_eq_finite (n := raw) (by omega)
  obtain ⟨b, hb, hbU⟩ := ofNat_eq_finite (n := most) (by omega)
  have hbpos : 0 < b.units := by
    rw [hbU]
    exact Nat.mul_pos hpos hU
  have hle : a.units ≤ b.units := by
    rw [haU, hbU]
    exact Nat.mul_le_mul_right _ hraw
  obtain ⟨m, hm, hnear⟩ := abs_ofQuotient_sub_le false hbpos hle
  refine ⟨m, ?_, ?_⟩
  · rw [ha, hb, div_finite _ _ _ _ (Nat.ne_of_gt hbpos)]
    exact hm
  · have hq : (0 : ℚ) < most := Nat.cast_pos.mpr hpos
    have hq' : (most : ℚ) ≤ 999999 := by exact_mod_cast hmost
    have hUq := unitsPerOne_cast_pos
    have hquotient : (a.units : ℚ) / b.units = raw / most := by
      rw [haU, hbU]
      push_cast
      field_simp
    rw [hquotient] at hnear
    have hplaces := m.abs_millionths_sub_le
    have htotal := abs_sub_le ((m.millionths : ℚ) / (10 : ℚ) ^ 6) m.value (raw / most)
    have he : (m.millionths : ℚ) / (10 : ℚ) ^ 6 * most - raw =
        ((m.millionths : ℚ) / (10 : ℚ) ^ 6 - raw / most) * most := by
      field_simp
    rw [he, abs_mul, abs_of_pos hq]
    calc |(m.millionths : ℚ) / (10 : ℚ) ^ 6 - raw / most| * most
      _ ≤ (1 / (2 * (10 : ℚ) ^ 6) + 1 / (2 : ℚ) ^ 53) * most :=
        mul_le_mul_of_nonneg_right (by linarith) hq.le
      _ ≤ (1 / (2 * (10 : ℚ) ^ 6) + 1 / (2 : ℚ) ^ 53) * 999999 :=
        mul_le_mul_of_nonneg_left hq' (by positivity)
      _ < 1 / 2 := by norm_num

end ColorCube
