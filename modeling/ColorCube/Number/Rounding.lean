/-!
# Rounding a quotient

The whole number nearest to an exact quotient, halfway cases going to the even neighbour. Reading a
decimal, dividing two doubles and printing six decimal places all round with this one function.
-/

namespace ColorCube

/-- The whole number nearest to `n / d`; of two equally near ones, the even one. -/
def nearestEven (n d : Nat) : Nat :=
  if 2 * (n % d) < d then n / d
  else if d < 2 * (n % d) then n / d + 1
  else n / d + n / d % 2

@[simp] theorem nearestEven_zero (d : Nat) (h : 0 < d) : nearestEven 0 d = 0 := by
  simp [nearestEven, h]

theorem div_le_nearestEven (n d : Nat) : n / d ≤ nearestEven n d := by
  unfold nearestEven; split <;> (try split) <;> omega

theorem nearestEven_le_succ (n d : Nat) : nearestEven n d ≤ n / d + 1 := by
  unfold nearestEven; split <;> (try split) <;> omega

theorem nearestEven_le_of_lt_mul {n d b : Nat} (h : n < d * b) : nearestEven n d ≤ b :=
  Nat.le_trans (nearestEven_le_succ n d) (Nat.div_lt_of_lt_mul h)

theorem le_nearestEven_of_mul_le {n d b : Nat} (hd : 0 < d) (h : d * b ≤ n) :
    b ≤ nearestEven n d :=
  Nat.le_trans ((Nat.le_div_iff_mul_le hd).2 (Nat.mul_comm d b ▸ h)) (div_le_nearestEven n d)

@[simp] theorem nearestEven_mul_self (m d : Nat) (h : 0 < d) : nearestEven (m * d) d = m := by
  simp [nearestEven, h]

end ColorCube
