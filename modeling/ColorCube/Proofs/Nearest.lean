import Mathlib.Data.Nat.Cast.Order.Field
import ColorCube.Proofs.Precision

/-!
# The nearest double

The nearest whole number is the even one where two are as near, and a quotient is rounded to it. A magnitude is the
nearest one to a number when no other is nearer, and when it has the even significand if another is as near. There is
exactly one, and quotients are rounded to it. From 2^1024 - 2^970 on a double is infinite instead. Decimals are
rounded in the same way, also those whose powers of ten are never built.
-/

namespace ColorCube

section Grid

variable {n d : Nat}

/-- Every whole number is at least as far from a quotient as the one that it is rounded to. -/
theorem abs_nearestEven_sub_le_nat (n : Nat) (hd : 0 < d) (k : Nat) :
    |(nearestEven n d : ℚ) - n / d| ≤ |(k : ℚ) - n / d| := by
  have hround := abs_nearestEven_sub_le n hd
  have hhalf := abs_le.mp hround
  rcases Nat.lt_trichotomy k (nearestEven n d) with hk | rfl | hk
  · have hstep : (k : ℚ) + 1 ≤ nearestEven n d := by exact_mod_cast hk
    calc |(nearestEven n d : ℚ) - n / d| ≤ 1 / 2 := hround
      _ ≤ -((k : ℚ) - n / d) := by linarith
      _ ≤ _ := neg_le_abs _
  · exact le_refl _
  · have hstep : (nearestEven n d : ℚ) + 1 ≤ k := by exact_mod_cast hk
    calc |(nearestEven n d : ℚ) - n / d| ≤ 1 / 2 := hround
      _ ≤ (k : ℚ) - n / d := by linarith
      _ ≤ _ := le_abs_self _

/-- Another whole number is as near only when the quotient lies in the middle between two neighbours. -/
theorem exists_half_of_tie (hd : 0 < d) {k : Nat} (hk : k ≠ nearestEven n d)
    (htie : |(nearestEven n d : ℚ) - n / d| = |(k : ℚ) - n / d|) :
    ∃ p, 2 * n = (2 * p + 1) * d ∧ (k = p ∨ k = p + 1) := by
  have hround := abs_nearestEven_sub_le n hd
  have hhalf := abs_le.mp hround
  have hq : (d : ℚ) ≠ 0 := Nat.cast_ne_zero.mpr (Nat.ne_of_gt hd)
  have hmiddle : ∀ p : Nat, (n : ℚ) / d = p + 1 / 2 → 2 * n = (2 * p + 1) * d := by
    intro p h
    rw [div_eq_iff hq] at h
    have h2 : (2 * n : ℚ) = (2 * p + 1) * d := by
      rw [h]
      ring
    exact_mod_cast h2
  rcases Nat.lt_or_gt_of_ne hk with hlt | hlt
  · have hstep : (k : ℚ) + 1 ≤ nearestEven n d := by exact_mod_cast hlt
    rw [htie, abs_of_nonpos (by linarith)] at hround
    exact ⟨k, hmiddle k (by linarith), Or.inl rfl⟩
  · have hstep : (nearestEven n d : ℚ) + 1 ≤ k := by exact_mod_cast hlt
    rw [htie, abs_of_nonneg (by linarith)] at hround
    obtain ⟨p, rfl⟩ := Nat.exists_eq_succ_of_ne_zero (Nat.ne_of_gt (Nat.zero_lt_of_lt hlt))
    refine ⟨p, hmiddle p ?_, Or.inr rfl⟩
    rw [Nat.cast_succ] at hround hstep
    linarith

/-- In the middle of a step the even end of the step is taken. -/
theorem nearestEven_of_half {p D : Nat} (hD : 0 < D) (h : 2 * n = (2 * p + 1) * D) :
    nearestEven n D = p + p % 2 := by
  have hp : (2 * p + 1) * D = 2 * (p * D) + D := by rw [Nat.add_mul, Nat.mul_assoc, Nat.one_mul]
  rw [hp] at h
  have hdiv : n / D = p := by
    rw [Nat.div_eq_iff hD]
    omega
  have hmod := Nat.div_add_mod' n D
  rw [hdiv] at hmod
  rw [nearestEven, hdiv, if_neg (by omega), if_neg (by omega)]

/-- The whole number nearest to a number, which is the even one where another is as near. -/
structure IsNearestWhole (k : Nat) (q : ℚ) : Prop where
  nearest : ∀ other : Nat, |(k : ℚ) - q| ≤ |(other : ℚ) - q|
  even : ∀ other : Nat, other ≠ k → |(k : ℚ) - q| = |(other : ℚ) - q| → k % 2 = 0

/-- Where two whole numbers are equally near, the rounded one is even and the other one odd. -/
theorem mod_two_of_tie (hd : 0 < d) {k : Nat} (hk : k ≠ nearestEven n d)
    (htie : |(nearestEven n d : ℚ) - n / d| = |(k : ℚ) - n / d|) :
    nearestEven n d % 2 = 0 ∧ k % 2 = 1 := by
  obtain ⟨p, hp, hkp⟩ := exists_half_of_tie hd hk htie
  rw [nearestEven_of_half hd hp] at hk ⊢
  omega

theorem isNearestWhole_div_iff {k : Nat} (hd : 0 < d) : IsNearestWhole k ((n : ℚ) / d) ↔ k = nearestEven n d := by
  constructor
  · intro h
    by_contra hk
    have htie := le_antisymm (abs_nearestEven_sub_le_nat n hd k) (h.nearest (nearestEven n d))
    have heven := h.even (nearestEven n d) (Ne.symm hk) htie.symm
    have hodd := (mod_two_of_tie hd hk htie).2
    omega
  · rintro rfl
    constructor
    · intro other
      exact abs_nearestEven_sub_le_nat n hd other
    · intro other hne htie
      exact (mod_two_of_tie hd hne htie).1

/-- No multiple of the spacing lies nearer to a quotient than the one that it is rounded to. -/
theorem abs_roundUnits_sub_le_multiple (n : Nat) (hd : 0 < d) (j : Nat) :
    |(roundUnits n d : ℚ) - n / d| ≤ |((j * spacing (n / d) : Nat) : ℚ) - n / d| := by
  have hs := spacing_pos (n / d)
  rw [roundUnits, abs_mul_sub_div hs, abs_mul_sub_div hs]
  exact mul_le_mul_of_nonneg_right (abs_nearestEven_sub_le_nat n (Nat.mul_pos hd hs) j) (Nat.cast_nonneg _)

/-- The steps around a quotient are numbered by 53 binary places, with the first of them in use where the spacing is
more than one unit. -/
theorem bounds_of_half (hd : 0 < d) {p : Nat} (h : 2 * n = (2 * p + 1) * (d * spacing (n / d))) :
    p < 2 ^ 53 ∧ ((n / d).log2 - 52 = 0 ∨ 2 ^ 52 ≤ p) := by
  have hs := spacing_pos (n / d)
  have hmul : (2 * p + 1) * (d * spacing (n / d)) =
      2 * (p * spacing (n / d) * d) + d * spacing (n / d) := by ring
  have hlow : p * spacing (n / d) ≤ n / d := by
    rw [Nat.le_div_iff_mul_le hd]
    omega
  have hhigh : n / d < (p + 1) * spacing (n / d) := by
    have hsucc : (p + 1) * spacing (n / d) * d = p * spacing (n / d) * d + d * spacing (n / d) := by ring
    have hds := Nat.mul_pos hd hs
    rw [Nat.div_lt_iff_lt_mul hd]
    omega
  constructor
  · have hu : n / d < 2 ^ 53 * spacing (n / d) := by
      rw [spacing, ← Nat.pow_add]
      exact Nat.lt_of_lt_of_le Nat.lt_log2_self (Nat.pow_le_pow_right (by decide) (by omega))
    exact Nat.lt_of_mul_lt_mul_right (Nat.lt_of_le_of_lt hlow hu)
  · rcases Nat.lt_or_ge 52 (n / d).log2 with hlog | hlog
    · right
      have hne : n / d ≠ 0 := by
        intro hz
        rw [hz] at hlog
        exact absurd hlog (by decide)
      have hu : 2 ^ 52 * spacing (n / d) ≤ n / d := by
        rw [spacing, ← Nat.pow_add, Nat.add_sub_cancel' (Nat.le_of_lt hlog)]
        exact Nat.log2_self_le hne
      exact Nat.le_of_lt_succ (Nat.lt_of_mul_lt_mul_right (Nat.lt_of_le_of_lt hu hhigh))
    · left
      omega

theorem spacing_mul_two_pow {j e : Nat} (hj : j < 2 ^ 53) (h : e = 0 ∨ 2 ^ 52 ≤ j) :
    spacing (j * 2 ^ e) = 2 ^ e := by
  have hlog : (j * 2 ^ e).log2 - 52 = e := by
    rcases Nat.eq_zero_or_pos j with rfl | hpos
    · rcases h with rfl | h
      · decide
      · exact absurd h (by decide)
    · have hne : j * 2 ^ e ≠ 0 := Nat.ne_of_gt (Nat.mul_pos hpos (Nat.two_pow_pos e))
      have hlt : (j * 2 ^ e).log2 < 53 + e := by
        rw [Nat.log2_lt hne, Nat.pow_add]
        exact Nat.mul_lt_mul_of_pos_right hj (Nat.two_pow_pos e)
      rcases h with rfl | h
      · omega
      · have hle : 52 + e ≤ (j * 2 ^ e).log2 := by
          rw [Nat.le_log2 hne, Nat.pow_add]
          exact Nat.mul_le_mul_right _ h
        omega
  rw [spacing, hlog]

end Grid

namespace Magnitude

/-- How many times its spacing a magnitude is: the number in its 53 binary places. -/
def significand (m : Magnitude) : Nat := m.units / spacing m.units

/-- No magnitude is nearer to the number, and where another one is as near, this one has the even significand. -/
structure IsNearest (m : Magnitude) (q : ℚ) : Prop where
  nearest : ∀ other : Magnitude, |m.value - q| ≤ |other.value - q|
  even : ∀ other : Magnitude, other ≠ m → |m.value - q| = |other.value - q| → m.significand % 2 = 0

theorem significand_mod_two {m : Magnitude} {j e : Nat} (hm : m.units = j * 2 ^ e) (hj : j ≤ 2 ^ 53)
    (h : e = 0 ∨ 2 ^ 52 ≤ j) : m.significand % 2 = j % 2 := by
  rcases Nat.lt_or_eq_of_le hj with hj | rfl
  · rw [significand, hm, spacing_mul_two_pow hj h, Nat.mul_div_cancel _ (Nat.two_pow_pos e)]
  · have hs : spacing (2 ^ 53 * 2 ^ e) = 2 * 2 ^ e := by
      rw [← Nat.pow_add, spacing, Nat.log2_two_pow, ← Nat.pow_succ']
      congr 1
      omega
    have he : 2 ^ 53 * 2 ^ e = 2 ^ 52 * (2 * 2 ^ e) := by
      rw [← Nat.mul_assoc]
      rfl
    rw [significand, hm, hs, he, Nat.mul_div_cancel _ (Nat.mul_pos (by decide) (Nat.two_pow_pos e))]
    rfl

theorem abs_value_sub (m : Magnitude) (q : ℚ) : |m.value - q| = |(m.units : ℚ) - q * unitsPerOne| / unitsPerOne := by
  have hU := unitsPerOne_cast_pos
  have he : m.value - q = ((m.units : ℚ) - q * unitsPerOne) / unitsPerOne := by
    rw [value]
    field_simp
  rw [he, abs_div, abs_of_pos hU]

/-- A magnitude is a multiple of a given spacing, unless it lies below all numbers with that spacing. -/
theorem multiple_or_below (m : Magnitude) (u : Nat) :
    (∃ j, m.units = j * spacing u) ∨ m.units < 2 ^ 52 * spacing u ∧ 2 ^ 52 * spacing u ≤ u := by
  by_cases h : u.log2 - 52 ≤ m.units.log2 - 52
  · left
    obtain ⟨j, hj⟩ := Nat.dvd_trans (Nat.pow_dvd_pow 2 h) m.spacing_dvd
    exact ⟨j, hj.trans (Nat.mul_comm _ _)⟩
  · right
    have hpow : 2 ^ 52 * spacing u = 2 ^ u.log2 := by
      rw [spacing, ← Nat.pow_add, Nat.add_sub_cancel' (by omega)]
    have hu : u ≠ 0 := by
      rintro rfl
      exact h (Nat.zero_le _)
    rw [hpow]
    constructor
    · rcases Nat.eq_zero_or_pos m.units with hz | hpos
      · rw [hz]
        exact Nat.two_pow_pos _
      · rw [← Nat.log2_lt (Nat.ne_of_gt hpos)]
        omega
    · exact Nat.log2_self_le hu

section Rounding

variable {n d : Nat}

/-- A magnitude that is no multiple of the spacing around a quotient lies farther off than what it is rounded to. -/
theorem multiple_or_farther (m : Magnitude) (n : Nat) (hd : 0 < d) :
    (∃ j, m.units = j * spacing (n / d)) ∨ |(roundUnits n d : ℚ) - n / d| < |(m.units : ℚ) - n / d| := by
  rcases m.multiple_or_below (n / d) with h | ⟨hm, hu⟩
  · exact Or.inl h
  · right
    have hlt : (m.units : ℚ) < (2 ^ 52 * spacing (n / d) : Nat) := Nat.cast_lt.mpr hm
    have hle : ((2 ^ 52 * spacing (n / d) : Nat) : ℚ) ≤ n / d :=
      le_trans (Nat.cast_le.mpr hu) Nat.cast_div_le
    calc |(roundUnits n d : ℚ) - n / d|
        ≤ |((2 ^ 52 * spacing (n / d) : Nat) : ℚ) - n / d| := abs_roundUnits_sub_le_multiple n hd _
      _ = n / d - (2 ^ 52 * spacing (n / d) : Nat) := by rw [abs_sub_comm, abs_of_nonneg (by linarith)]
      _ < n / d - m.units := by linarith
      _ ≤ |(m.units : ℚ) - n / d| := by
        rw [abs_sub_comm]
        exact le_abs_self _

theorem abs_roundUnits_sub_le_units (m : Magnitude) (n : Nat) (hd : 0 < d) :
    |(roundUnits n d : ℚ) - n / d| ≤ |(m.units : ℚ) - n / d| := by
  rcases m.multiple_or_farther n hd with ⟨j, hj⟩ | h
  · rw [hj]
    exact abs_roundUnits_sub_le_multiple n hd j
  · exact le_of_lt h

/-- Where two magnitudes are equally near, the rounded one has the even significand and the other the odd one. -/
theorem significand_of_tie {r m : Magnitude} (hd : 0 < d) (hr : r.units = roundUnits n d) (hne : m ≠ r)
    (htie : |(r.units : ℚ) - n / d| = |(m.units : ℚ) - n / d|) :
    r.significand % 2 = 0 ∧ m.significand % 2 = 1 := by
  rw [hr] at htie
  rcases m.multiple_or_farther n hd with ⟨j, hj⟩ | h
  · have hk : j ≠ nearestEven n (d * spacing (n / d)) := by
      rintro rfl
      exact hne (ext (hj.trans hr.symm))
    have hs := spacing_pos (n / d)
    have hspos : (0 : ℚ) < spacing (n / d) := Nat.cast_pos.mpr hs
    rw [hj, roundUnits, abs_mul_sub_div hs, abs_mul_sub_div hs, mul_left_inj' (ne_of_gt hspos)] at htie
    obtain ⟨p, hp, hjp⟩ := exists_half_of_tie (Nat.mul_pos hd hs) hk htie
    obtain ⟨hlt, hlow⟩ := bounds_of_half hd hp
    have heven := nearestEven_of_half (Nat.mul_pos hd hs) hp
    rw [heven] at hk
    rw [roundUnits, heven] at hr
    rw [significand_mod_two hr (by omega) (by omega), significand_mod_two hj (by omega) (by omega)]
    omega
  · exact absurd htie (ne_of_lt h)

theorem cast_mul_unitsPerOne_div (n d : Nat) :
    ((n * unitsPerOne : Nat) : ℚ) / d = (n : ℚ) / d * unitsPerOne := by
  push_cast
  ring

theorem isNearest_of_units_eq {r : Magnitude} (hd : 0 < d) (hr : r.units = roundUnits (n * unitsPerOne) d) :
    r.IsNearest (n / d) := by
  have hU := unitsPerOne_cast_pos
  constructor
  · intro other
    rw [abs_value_sub, abs_value_sub, ← cast_mul_unitsPerOne_div, hr, div_le_div_iff_of_pos_right hU]
    exact other.abs_roundUnits_sub_le_units _ hd
  · intro other hne htie
    rw [abs_value_sub, abs_value_sub, ← cast_mul_unitsPerOne_div, div_left_inj' (ne_of_gt hU)] at htie
    exact (significand_of_tie hd hr hne htie).1

theorem IsNearest.eq_of_units_eq {r m : Magnitude} (h : m.IsNearest (n / d)) (hd : 0 < d)
    (hr : r.units = roundUnits (n * unitsPerOne) d) : m = r := by
  have hU := unitsPerOne_cast_pos
  by_contra hne
  have htie := le_antisymm ((isNearest_of_units_eq hd hr).nearest m) (h.nearest r)
  have heven := h.even r (Ne.symm hne) htie.symm
  rw [abs_value_sub, abs_value_sub, ← cast_mul_unitsPerOne_div, div_left_inj' (ne_of_gt hU)] at htie
  have hodd := (significand_of_tie hd hr hne htie).2
  omega

end Rounding

end Magnitude

/-- A number between two others is nearer to the second one only from the middle on. -/
theorem add_le_two_mul_of_abs_le {a b q : ℚ} (hlt : b < a) (h : |a - q| ≤ |b - q|) : a + b ≤ 2 * q := by
  by_contra hq
  have hb : |b - q| < a - q := by
    rw [abs_lt]
    constructor
    · linarith
    · linarith
  exact absurd (le_trans (le_abs_self (a - q)) h) (not_le.mpr hb)

theorem two_mul_le_add_of_abs_le {a b q : ℚ} (hlt : b < a) (h : |b - q| ≤ |a - q|) : 2 * q ≤ a + b := by
  have hneg : |-b - -q| ≤ |-a - -q| := by
    rw [neg_sub_neg, neg_sub_neg, abs_sub_comm q b, abs_sub_comm q a]
    exact h
  have hle := add_le_two_mul_of_abs_le (neg_lt_neg hlt) hneg
  linarith

theorem exists_natCast_div_eq {q : ℚ} (hq : 0 ≤ q) : ∃ n d : Nat, 0 < d ∧ q = n / d := by
  have hnum : ((q.num.toNat : Int) : ℚ) = q.num := by
    rw [Int.toNat_of_nonneg (Rat.num_nonneg.mpr hq)]
  refine ⟨q.num.toNat, q.den, q.pos, ?_⟩
  rw [← Int.cast_natCast, hnum, Rat.num_div_den]

namespace Binary64

/-- The double to which a number is rounded, the sign and the absolute value of the number being given. So a number
that is rounded to zero keeps its sign. -/
def IsNearest (x : Binary64) (negative : Bool) (q : ℚ) : Prop :=
  match x with
  | .nan => False
  | .infinite s => s = negative ∧ ((2 ^ 1024 - 2 ^ 970 : Nat) : ℚ) ≤ q
  | .finite s m => s = negative ∧ q < ((2 ^ 1024 - 2 ^ 970 : Nat) : ℚ) ∧ m.IsNearest q

variable {x : Binary64} {negative : Bool} {q r : ℚ}

theorem isNearest_div_iff {n d : Nat} (hd : 0 < d) :
    x.IsNearest negative (n / d) ↔ x = ofQuotient negative n d := by
  have hq : (0 : ℚ) < d := Nat.cast_pos.mpr hd
  have hfinite : (n : ℚ) / d < ((2 ^ 1024 - 2 ^ 970 : Nat) : ℚ) ↔
      roundUnits (n * unitsPerOne) d < magnitudeBound := by
    rw [← isFinite_ofQuotient negative, isFinite_ofQuotient_iff negative hd, div_lt_iff₀ hq]
    generalize 2 ^ 1024 - 2 ^ 970 = bound
    exact_mod_cast Iff.rfl
  rcases Nat.lt_or_ge (roundUnits (n * unitsPerOne) d) magnitudeBound with h | h
  · obtain ⟨r, hr, hunits⟩ := ofQuotient_of_lt negative h
    rw [hr]
    cases x with
    | nan => exact iff_of_false id nofun
    | infinite s => exact iff_of_false (fun hx => not_lt.mpr hx.2 (hfinite.mpr h)) nofun
    | finite s m =>
      constructor
      · rintro ⟨rfl, -, hm⟩
        rw [hm.eq_of_units_eq hd hunits]
      · intro he
        cases he
        exact ⟨rfl, hfinite.mpr h, Magnitude.isNearest_of_units_eq hd hunits⟩
  · rw [ofQuotient_of_le negative h]
    have hle := not_lt.mp (mt hfinite.mp (Nat.not_lt.mpr h))
    cases x with
    | nan => exact iff_of_false id nofun
    | infinite s =>
      constructor
      · rintro ⟨rfl, -⟩
        rfl
      · intro he
        cases he
        exact ⟨rfl, hle⟩
    | finite s m => exact iff_of_false (fun hx => not_lt.mpr hle hx.2.1) nofun

theorem IsNearest.eq {y : Binary64} (hx : x.IsNearest negative q) (hy : y.IsNearest negative q) (hq : 0 ≤ q) :
    x = y := by
  obtain ⟨n, d, hd, rfl⟩ := exists_natCast_div_eq hq
  exact ((isNearest_div_iff hd).mp hx).trans ((isNearest_div_iff hd).mp hy).symm

/-- A double is the nearest one to its own value. -/
theorem isNearest_value (negative : Bool) (m : Magnitude) : (finite negative m).IsNearest negative m.value := by
  have hround := roundUnits_mul_self unitsPerOne_pos m.spacing_dvd
  obtain ⟨r, hr, hunits⟩ := ofQuotient_of_lt negative (hround.trans_lt m.lt_bound)
  have he : r = m := Magnitude.ext (hunits.trans hround)
  rw [Magnitude.value, isNearest_div_iff unitsPerOne_pos, hr, he]

/-- Rounding keeps the order. -/
theorem IsNearest.units_le {s t : Bool} {a b : Magnitude} (ha : (finite s a).IsNearest s q)
    (hb : (finite t b).IsNearest t r) (hq : 0 ≤ q) (hle : q ≤ r) : a.units ≤ b.units := by
  obtain ⟨-, hlt, hna⟩ := ha
  by_contra h
  have hvalue : b.value < a.value :=
    div_lt_div_of_pos_right (Nat.cast_lt.mpr (Nat.not_le.mp h)) unitsPerOne_cast_pos
  have hlow := add_le_two_mul_of_abs_le hvalue (hna.nearest b)
  have hhigh := two_mul_le_add_of_abs_le hvalue (hb.2.2.nearest a)
  obtain rfl : q = r := by linarith
  have hfa : (finite false a).IsNearest false q := ⟨rfl, hlt, hna⟩
  have hfb : (finite false b).IsNearest false q := ⟨rfl, hb.2⟩
  have heq := hfa.eq hfb hq
  rw [finite.injEq] at heq
  rw [heq.2] at hvalue
  exact lt_irrefl _ hvalue

/-- From 2^1024 - 2^970 on the nearest double is infinite. -/
theorem isNearest_iff_of_le (h : ((2 ^ 1024 - 2 ^ 970 : Nat) : ℚ) ≤ q) :
    x.IsNearest negative q ↔ x = .infinite negative := by
  cases x with
  | nan => exact iff_of_false id nofun
  | infinite s =>
    rw [infinite.injEq]
    exact and_iff_left h
  | finite s m => exact iff_of_false (fun hx => not_lt.mpr h hx.2.1) nofun

/-- Below half a unit it is zero. -/
theorem isNearest_iff_of_lt (hq : 0 ≤ q) (h : 2 * q * unitsPerOne < 1) :
    x.IsNearest negative q ↔ x = .zero negative := by
  obtain ⟨n, d, hd, rfl⟩ := exists_natCast_div_eq hq
  have hn : 2 * (n * unitsPerOne) < d := by
    have hpos : (0 : ℚ) < d := Nat.cast_pos.mpr hd
    have he : 2 * ((n : ℚ) / d) * unitsPerOne = 2 * (n * unitsPerOne) / d := by ring
    rw [he, div_lt_one hpos] at h
    exact_mod_cast h
  have hdiv : n * unitsPerOne / d = 0 := Nat.div_eq_of_lt (by omega)
  have hone : spacing 0 = 1 := by decide
  have hround : roundUnits (n * unitsPerOne) d = 0 := by
    rw [roundUnits, hdiv, hone, Nat.mul_one, Nat.mul_one, nearestEven, hdiv,
      Nat.mod_eq_of_lt (by omega), if_pos hn]
  obtain ⟨r, hr, hunits⟩ := ofQuotient_of_lt negative (hround.trans_lt magnitudeBound_pos)
  have hzero : r = .zero := Magnitude.ext (hunits.trans hround)
  rw [isNearest_div_iff hd, hr, hzero, zero]

theorem bound_le_ten_pow : 2 ^ 1024 - 2 ^ 970 ≤ 10 ^ 310 := by decide +kernel

theorem bound_le_decimal {digits : Nat} {exponent : Int} (hd : 0 < digits) (h : 310 ≤ exponent) :
    ((2 ^ 1024 - 2 ^ 970 : Nat) : ℚ) ≤ digits * (10 : ℚ) ^ exponent := by
  have hone : (1 : ℚ) ≤ digits := Nat.one_le_cast.mpr hd
  have hpos : (0 : ℚ) < (10 : ℚ) ^ exponent := zpow_pos (by norm_num) exponent
  calc ((2 ^ 1024 - 2 ^ 970 : Nat) : ℚ) ≤ (10 ^ 310 : Nat) := Nat.cast_le.mpr bound_le_ten_pow
    _ = (10 : ℚ) ^ ((310 : Nat) : Int) := by rw [zpow_natCast, Nat.cast_pow, Nat.cast_ofNat]
    _ ≤ (10 : ℚ) ^ exponent := zpow_le_zpow_right₀ (by norm_num) h
    _ ≤ digits * (10 : ℚ) ^ exponent := le_mul_of_one_le_left hpos.le hone

theorem two_mul_unitsPerOne_lt : 2 * unitsPerOne < 10 ^ 330 := by
  unfold unitsPerOne leastPlace
  decide +kernel

/-- Decimals below 10^-330 lie below half a unit. -/
theorem decimal_lt_half_unit {digits : Nat} {exponent : Int} {k : Nat} (hd : digits < 10 ^ k)
    (h : exponent + k ≤ -330) : 2 * ((digits : ℚ) * (10 : ℚ) ^ exponent) * unitsPerOne < 1 := by
  have hpos : (0 : ℚ) < (10 : ℚ) ^ exponent := zpow_pos (by norm_num) exponent
  have hU := unitsPerOne_cast_pos
  have hdigits : (digits : ℚ) ≤ (10 : ℚ) ^ (k : Int) := by
    rw [zpow_natCast]
    exact_mod_cast hd.le
  have hunits : (2 * unitsPerOne : ℚ) < (10 : ℚ) ^ (330 : Int) := by
    have hcast : ((2 * unitsPerOne : Nat) : ℚ) < (10 ^ 330 : Nat) := Nat.cast_lt.mpr two_mul_unitsPerOne_lt
    rw [Nat.cast_mul, Nat.cast_pow] at hcast
    exact hcast
  have hsmall : (digits : ℚ) * (10 : ℚ) ^ exponent ≤ (10 : ℚ) ^ (-330 : Int) := calc
    (digits : ℚ) * (10 : ℚ) ^ exponent ≤ (10 : ℚ) ^ (k : Int) * (10 : ℚ) ^ exponent :=
      mul_le_mul_of_nonneg_right hdigits hpos.le
    _ = (10 : ℚ) ^ ((k : Int) + exponent) := (zpow_add₀ (by norm_num) _ _).symm
    _ ≤ (10 : ℚ) ^ (-330 : Int) := zpow_le_zpow_right₀ (by norm_num) (by omega)
  calc 2 * ((digits : ℚ) * (10 : ℚ) ^ exponent) * unitsPerOne
      = (digits : ℚ) * (10 : ℚ) ^ exponent * (2 * unitsPerOne) := by ring
    _ ≤ (10 : ℚ) ^ (-330 : Int) * (2 * unitsPerOne) := mul_le_mul_of_nonneg_right hsmall (by linarith)
    _ < (10 : ℚ) ^ (-330 : Int) * (10 : ℚ) ^ (330 : Int) :=
      mul_lt_mul_of_pos_left hunits (zpow_pos (by norm_num) _)
    _ = 1 := by rw [← zpow_add₀ (by norm_num), Int.add_left_neg, zpow_zero]

theorem decimal_nonneg (digits : Nat) (exponent : Int) : (0 : ℚ) ≤ digits * (10 : ℚ) ^ exponent :=
  mul_nonneg (Nat.cast_nonneg digits) (zpow_nonneg (by norm_num) exponent)

/-- A decimal is rounded once, whatever its power of ten. -/
theorem isNearest_decimal_iff {digits : Nat} {exponent : Int} :
    x.IsNearest negative (digits * (10 : ℚ) ^ exponent) ↔ x = ofDecimal negative digits exponent := by
  rcases Nat.eq_zero_or_pos digits with rfl | hd
  · have hzero : ((0 : Nat) : ℚ) * (10 : ℚ) ^ exponent = 0 := by rw [Nat.cast_zero, zero_mul]
    rw [hzero, isNearest_iff_of_lt (le_refl 0) (by norm_num)]
    rfl
  · unfold ofDecimal
    rw [if_neg (Nat.ne_of_gt hd)]
    cases exponent with
    | ofNat e =>
      dsimp only
      by_cases he : 310 ≤ e
      · rw [if_pos he]
        exact isNearest_iff_of_le (bound_le_decimal hd (Int.ofNat_le.mpr he))
      · have hvalue : (digits : ℚ) * (10 : ℚ) ^ Int.ofNat e = (digits * 10 ^ e : Nat) / (1 : Nat) := by
          rw [Int.ofNat_eq_natCast, zpow_natCast]
          push_cast
          ring
        rw [if_neg he, hvalue]
        exact isNearest_div_iff Nat.one_pos
    | negSucc e =>
      dsimp only
      by_cases he : digits.log2 + 330 ≤ e
      · have hdigits : digits < 10 ^ (digits.log2 + 1) :=
          Nat.lt_of_lt_of_le Nat.lt_log2_self (Nat.pow_le_pow_left (by decide) _)
        rw [if_pos he]
        exact isNearest_iff_of_lt (decimal_nonneg _ _) (decimal_lt_half_unit hdigits (by omega))
      · have hvalue : (digits : ℚ) * (10 : ℚ) ^ Int.negSucc e = digits / (10 ^ (e + 1) : Nat) := by
          rw [zpow_negSucc, ← div_eq_mul_inv]
          push_cast
          rfl
        rw [if_neg he, hvalue]
        exact isNearest_div_iff (Nat.pow_pos (by decide))

end Binary64

end ColorCube
