import ColorCube.Number.Binary64

/-!
# Rounded quotients

How far a rounded quotient lies from the exact one, and from where on it is too large for a finite double:
from the number halfway between the largest double and the first power of two past it.
-/

namespace ColorCube

section Nearest

variable {n d m : Nat}

/-- A quotient is rounded down past at most half of the divisor, or up over at least half of it. -/
theorem nearestEven_cases (n : Nat) (hd : 0 < d) :
    ∃ q r, n = q * d + r ∧ r < d ∧
      (nearestEven n d = q ∧ 2 * r ≤ d ∨ nearestEven n d = q + 1 ∧ d ≤ 2 * r) := by
  have hn := Nat.div_add_mod' n d
  have hr := Nat.mod_lt n hd
  refine ⟨n / d, n % d, hn.symm, hr, ?_⟩
  unfold nearestEven
  by_cases hdown : 2 * (n % d) < d
  · rw [if_pos hdown]
    exact Or.inl ⟨rfl, Nat.le_of_lt hdown⟩
  · by_cases hup : d < 2 * (n % d)
    · rw [if_neg hdown, if_pos hup]
      exact Or.inr ⟨rfl, Nat.le_of_lt hup⟩
    · rw [if_neg hdown, if_neg hup]
      omega

/-- A quotient is at most half above what it is rounded to. -/
theorem two_mul_le_nearestEven (n : Nat) (hd : 0 < d) : 2 * n ≤ 2 * (nearestEven n d * d) + d := by
  obtain ⟨q, r, hn, hr, ⟨he, hle⟩ | ⟨he, hle⟩⟩ := nearestEven_cases n hd
  · rw [he]
    omega
  · rw [he, Nat.add_mul q 1 d]
    omega

/-- A quotient is at most half below what it is rounded to. -/
theorem two_mul_nearestEven_le (n : Nat) (hd : 0 < d) : 2 * (nearestEven n d * d) ≤ 2 * n + d := by
  obtain ⟨q, r, hn, hr, ⟨he, hle⟩ | ⟨he, hle⟩⟩ := nearestEven_cases n hd
  · rw [he]
    omega
  · rw [he, Nat.add_mul q 1 d]
    omega

/-- A quotient just half under an even number is rounded up to it. -/
theorem nearestEven_of_half_under (hd : 0 < d) (hm : 0 < m) (heven : m % 2 = 0)
    (h : 2 * n + d = 2 * (m * d)) : nearestEven n d = m := by
  have hmul : (m - 1) * d = m * d - d := by rw [Nat.sub_mul, Nat.one_mul]
  have hmd : d ≤ m * d := Nat.le_mul_of_pos_left d hm
  have hdiv : n / d = m - 1 := by
    rw [Nat.div_eq_iff hd, hmul]
    omega
  have hmod := Nat.div_add_mod' n d
  rw [hdiv, hmul] at hmod
  rw [nearestEven, hdiv, if_neg (by omega), if_neg (by omega)]
  omega

/-- What is rounded to less than an even number lies more than half under it. -/
theorem nearestEven_lt_iff (hd : 0 < d) (hm : 0 < m) (heven : m % 2 = 0) :
    nearestEven n d < m ↔ 2 * n + d < 2 * (m * d) := by
  constructor
  · intro h
    have hle := two_mul_le_nearestEven n hd
    have hmul : (nearestEven n d + 1) * d ≤ m * d := Nat.mul_le_mul_right d h
    rw [Nat.add_mul, Nat.one_mul] at hmul
    refine Nat.lt_of_le_of_ne (by omega) ?_
    intro heq
    exact absurd (nearestEven_of_half_under hd hm heven heq) (Nat.ne_of_lt h)
  · intro h
    have hle := two_mul_nearestEven_le n hd
    have hlt : nearestEven n d * d < m * d := by omega
    exact Nat.lt_of_mul_lt_mul_right hlt

end Nearest

/-- A quotient that is a magnitude itself is not rounded. -/
theorem roundUnits_mul_self {m d : Nat} (hd : 0 < d) (h : spacing m ∣ m) :
    roundUnits (m * d) d = m := by
  obtain ⟨q, hq⟩ := h
  have hm : q * spacing m = m := by rw [Nat.mul_comm, ← hq]
  have he : m * d = q * (d * spacing m) := by
    rw [Nat.mul_left_comm, hm, Nat.mul_comm]
  rw [roundUnits, Nat.mul_div_cancel m hd, he,
    nearestEven_mul_self q _ (Nat.mul_pos hd (spacing_pos m)), hm]

theorem pow_log2_le_roundUnits {n d : Nat} (hd : 0 < d) (h : 52 ≤ (n / d).log2) :
    2 ^ (n / d).log2 ≤ roundUnits n d := by
  have hq : n / d ≠ 0 := by
    intro hz
    rw [hz] at h
    exact absurd h (by decide)
  have hpow : spacing (n / d) * 2 ^ 52 = 2 ^ (n / d).log2 := by
    rw [spacing, ← Nat.pow_add, Nat.sub_add_cancel h]
  have hle : d * spacing (n / d) * 2 ^ 52 ≤ n := calc
    d * spacing (n / d) * 2 ^ 52 = d * 2 ^ (n / d).log2 := by rw [Nat.mul_assoc, hpow]
    _ ≤ d * (n / d) := Nat.mul_le_mul_left d (Nat.log2_self_le hq)
    _ ≤ n := Nat.mul_div_le n d
  rw [← hpow, roundUnits, Nat.mul_comm]
  exact Nat.mul_le_mul_right _
    (le_nearestEven_of_mul_le (Nat.mul_pos hd (spacing_pos _)) hle)

theorem roundUnits_le_pow_log2 (n d : Nat) : roundUnits n d ≤ 2 ^ 53 * spacing (n / d) :=
  Nat.mul_le_mul_right _ (nearestEven_spacing_le n d)

/-- The number of units in 2^970, which is half the distance between the largest doubles. -/
@[irreducible] def halfStep : Nat := 2 ^ (leastPlace + 970)

theorem halfStep_pos : 0 < halfStep := by
  unfold halfStep
  exact Nat.two_pow_pos _

theorem magnitudeBound_eq : magnitudeBound = 2 ^ 54 * halfStep := by
  have he : leastPlace + 1024 = 54 + (leastPlace + 970) := by omega
  unfold magnitudeBound halfStep
  rw [he, Nat.pow_add]

theorem two_mul_halfStep : 2 * halfStep = 2 ^ (leastPlace + 1023 - 52) := by
  have he : leastPlace + 1023 - 52 = 1 + (leastPlace + 970) := by omega
  have hp := Nat.pow_add 2 1 (leastPlace + 970)
  rw [Nat.pow_one] at hp
  unfold halfStep
  rw [he, hp]

/-- Quotients are rounded to a finite magnitude up to halfway past the largest one. -/
theorem roundUnits_lt_bound_iff {n d : Nat} (hd : 0 < d) :
    roundUnits n d < magnitudeBound ↔ n < (2 ^ 54 - 1) * (d * halfStep) := by
  have hfloor : d * (n / d) ≤ n := Nat.mul_div_le n d
  have hceil : n < d * (n / d + 1) := Nat.lt_mul_div_succ n hd
  have hpos := Nat.mul_pos hd halfStep_pos
  rcases Nat.lt_trichotomy (n / d).log2 (leastPlace + 1023) with hlow | htop | hhigh
  · -- the quotient is below half of the bound
    have hs : spacing (n / d) ≤ halfStep := by
      unfold spacing halfStep
      exact Nat.pow_le_pow_right (by decide) (by omega)
    have hr := roundUnits_le_pow_log2 n d
    have he : 53 + (leastPlace + 970) = leastPlace + 1023 := by omega
    have hq : n / d + 1 ≤ 2 ^ 53 * halfStep := calc
      n / d + 1 ≤ 2 ^ ((n / d).log2 + 1) := Nat.lt_log2_self
      _ ≤ 2 ^ (leastPlace + 1023) := Nat.pow_le_pow_right (by decide) hlow
      _ = 2 ^ 53 * halfStep := by
        unfold halfStep
        rw [← he, Nat.pow_add]
    have hdq := Nat.mul_le_mul_left d hq
    rw [Nat.mul_left_comm] at hdq
    have hstep := halfStep_pos
    have hbound := magnitudeBound_eq
    omega
  · -- the distance between doubles is twice the half step
    have hs : spacing (n / d) = 2 * halfStep := by
      rw [spacing, htop, two_mul_halfStep]
    have hb : magnitudeBound = 2 ^ 53 * (2 * halfStep) := by
      have hbound := magnitudeBound_eq
      omega
    have hds : 0 < d * (2 * halfStep) := Nat.mul_pos hd (Nat.mul_pos (by decide) halfStep_pos)
    rw [roundUnits, hs, hb, Nat.mul_lt_mul_right (Nat.mul_pos (by decide) halfStep_pos),
      nearestEven_lt_iff hds (by decide) (by decide), Nat.mul_left_comm d 2]
    omega
  · -- the quotient is at the bound or past it
    have hr := pow_log2_le_roundUnits hd (by omega : 52 ≤ (n / d).log2)
    have hb : magnitudeBound ≤ 2 ^ (n / d).log2 := by
      unfold magnitudeBound
      exact Nat.pow_le_pow_right (by decide) (by omega)
    have hz : n / d ≠ 0 := by
      intro hz
      rw [hz] at hhigh
      exact absurd hhigh (by simp)
    have hq : magnitudeBound ≤ n / d := Nat.le_trans hb (Nat.log2_self_le hz)
    have hdq := Nat.mul_le_mul_left d hq
    rw [magnitudeBound_eq, Nat.mul_left_comm] at hdq
    have hbound := magnitudeBound_eq
    omega

namespace Binary64

theorem ofQuotient_of_lt (negative : Bool) {n d : Nat}
    (h : roundUnits (n * unitsPerOne) d < magnitudeBound) :
    ∃ m, ofQuotient negative n d = .finite negative m ∧ m.units = roundUnits (n * unitsPerOne) d := by
  rw [ofQuotient, Magnitude.ofQuotient?, dif_pos h]
  exact ⟨_, rfl, rfl⟩

theorem ofQuotient_of_le (negative : Bool) {n d : Nat}
    (h : magnitudeBound ≤ roundUnits (n * unitsPerOne) d) :
    ofQuotient negative n d = .infinite negative := by
  rw [ofQuotient, Magnitude.ofQuotient?, dif_neg (Nat.not_lt.mpr h), Option.elim_none]

theorem isFinite_ofQuotient (negative : Bool) (n d : Nat) :
    (ofQuotient negative n d).isFinite ↔ roundUnits (n * unitsPerOne) d < magnitudeBound := by
  rcases Nat.lt_or_ge (roundUnits (n * unitsPerOne) d) magnitudeBound with h | h
  · obtain ⟨m, hm, -⟩ := ofQuotient_of_lt negative h
    rw [hm]
    exact iff_of_true rfl h
  · rw [ofQuotient_of_le negative h]
    exact iff_of_false Bool.false_ne_true (Nat.not_lt.mpr h)

/-- Quotients of finite numbers are infinite from 2^1024 - 2^970 on. -/
theorem isFinite_ofQuotient_iff (negative : Bool) {n d : Nat} (hd : 0 < d) :
    (ofQuotient negative n d).isFinite ↔ n < (2 ^ 1024 - 2 ^ 970) * d := by
  have hstep : (2 ^ 54 - 1) * (d * halfStep) = (2 ^ 1024 - 2 ^ 970) * d * unitsPerOne := by
    have hp : (2 ^ 54 - 1) * 2 ^ 970 = 2 ^ 1024 - 2 ^ 970 := by decide +kernel
    have hh : halfStep = unitsPerOne * 2 ^ 970 := by
      have hpow : ∀ e, 2 ^ (leastPlace + e) = 2 ^ leastPlace * 2 ^ e := Nat.pow_add 2 leastPlace
      unfold halfStep unitsPerOne
      exact hpow 970
    rw [hh, ← hp]
    generalize 2 ^ 970 = x
    ac_rfl
  rw [← Nat.mul_lt_mul_right unitsPerOne_pos, ← hstep, ← roundUnits_lt_bound_iff hd,
    isFinite_ofQuotient]

end Binary64

end ColorCube
