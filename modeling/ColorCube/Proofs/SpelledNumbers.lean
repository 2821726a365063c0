import ColorCube.Proofs.Spellings

/-!
# Spelled numbers

The value of a literal is the double nearest to the number that it spells. What is passed over of an exponent makes no
difference, except where an exponent of 10 * 2^16 or more stands with more than 65000 digits. With fewer digits the
number is too large for a finite double, or too small for one other than zero, whatever is passed over.
-/

namespace ColorCube

namespace Literal

/-- A digit more of an exponent, unless it has reached 2^16. -/
def takeDigit (n : Nat) (c : Char) : Nat := if n < 2 ^ 16 then 10 * n + (c.toNat - '0'.toNat) else n

theorem foldl_takeDigit_of_le {n : Nat} (h : 2 ^ 16 ≤ n) (s : List Char) : s.foldl takeDigit n = n := by
  induction s with
  | nil => rfl
  | cons c s ih =>
    have hskip : takeDigit n c = n := if_neg (Nat.not_lt.mpr h)
    rw [List.foldl_cons, hskip, ih]

theorem le_ofDigitChars (s : List Char) (n : Nat) : n ≤ Nat.ofDigitChars 10 s n := by
  rw [Nat.ofDigitChars_eq_ofDigitChars_zero]
  exact Nat.le_add_right_of_le (Nat.le_mul_of_pos_left n (Nat.pow_pos (by decide)))

/-- An exponent below 10 * 2^16 is read in full. -/
theorem foldl_takeDigit_eq {s : List Char} {n : Nat} (h : Nat.ofDigitChars 10 s n < 10 * 2 ^ 16) :
    s.foldl takeDigit n = Nat.ofDigitChars 10 s n := by
  induction s generalizing n with
  | nil => rw [List.foldl_nil, Nat.ofDigitChars_nil]
  | cons c s ih =>
    rw [Nat.ofDigitChars_cons] at h ⊢
    have hle := le_ofDigitChars s (10 * n + (c.toNat - '0'.toNat))
    have htake : takeDigit n c = 10 * n + (c.toNat - '0'.toNat) := if_pos (by omega)
    rw [List.foldl_cons, htake, ih h]

/-- A larger one is read up to 2^16 at least. -/
theorem le_foldl_takeDigit {s : List Char} {n : Nat} (h : 2 ^ 16 ≤ Nat.ofDigitChars 10 s n) :
    2 ^ 16 ≤ s.foldl takeDigit n := by
  induction s generalizing n with
  | nil => rwa [Nat.ofDigitChars_nil] at h
  | cons c s ih =>
    rw [List.foldl_cons]
    rcases Nat.lt_or_ge n (2 ^ 16) with hn | hn
    · have htake : takeDigit n c = 10 * n + (c.toNat - '0'.toNat) := if_pos hn
      rw [Nat.ofDigitChars_cons] at h
      rw [htake]
      exact ih h
    · have hskip : takeDigit n c = n := if_neg (Nat.not_lt.mpr hn)
      rwa [hskip, foldl_takeDigit_of_le hn]

end Literal

theorem numberOf_lt {ds : List Char} (h : ∀ c ∈ ds, c.isDigit) : numberOf ds < 10 ^ ds.length := by
  induction ds with
  | nil => decide
  | cons c ds ih =>
    obtain ⟨hc, hds⟩ := List.forall_mem_cons.mp h
    have h9 : c.toNat ≤ 57 := (Char.isDigit_iff_toNat.mp hc).2
    have hlt := ih hds
    have hmul : 10 ^ ds.length * (c.toNat - 48) ≤ 10 ^ ds.length * 9 := Nat.mul_le_mul_left _ (by omega)
    rw [numberOf_cons, List.length_cons, Nat.pow_succ]
    omega

namespace Decimal

/-- What is passed over of the exponent makes no difference: nothing is, or there are not more than 65000 digits. -/
def IsExact (d : Decimal) : Prop :=
  ∀ e ∈ d.exponent, numberOf e.digits < 10 * 2 ^ 16 ∨ d.digits.length ≤ 65000

variable {d : Decimal} {x : Binary64} {negative : Bool}

/-- An exponent of at least 2^16 decides alone whether a decimal of not too many digits is infinite or zero. -/
theorem isNearest_iff_of_exponent {sign : Sign} {n : Nat} (hn : 2 ^ 16 ≤ n) (hpos : 0 < numberOf d.digits)
    (hlength : d.digits.length ≤ 65000) :
    x.IsNearest negative (numberOf d.digits * (10 : ℚ) ^ (Exponent.signed sign n - (d.fraction.getD []).length)) ↔
      x = if sign.isMinus then .zero negative else .infinite negative := by
  have hfraction : (d.fraction.getD []).length ≤ 65000 := by
    rw [digits, List.length_append] at hlength
    omega
  cases hs : sign.isMinus with
  | true =>
    rw [Exponent.signed, hs, if_pos rfl, if_pos rfl]
    have hlt := numberOf_lt fun _ => d.isDigit
    exact Binary64.isNearest_iff_of_lt (Binary64.decimal_nonneg _ _)
      (Binary64.decimal_lt_half_unit hlt (by omega))
  | false =>
    rw [Exponent.signed, hs, if_neg Bool.false_ne_true, if_neg Bool.false_ne_true]
    exact Binary64.isNearest_iff_of_le (Binary64.bound_le_decimal hpos (by omega))

/-- So the number that is read is rounded like the number that is spelled. -/
theorem isNearest_number_iff (h : d.IsExact) : x.IsNearest negative d.number ↔ x.IsNearest negative d.readNumber := by
  unfold number readNumber place
  cases he : d.exponent with
  | none => rfl
  | some e =>
    simp only [Option.elim_some, Exponent.number, Exponent.readNumber]
    rcases Nat.lt_or_ge (numberOf e.digits) (10 * 2 ^ 16) with hlt | hge
    · have hread : Literal.exponentValue e.digits = numberOf e.digits := Literal.foldl_takeDigit_eq hlt
      rw [hread]
    · rcases Nat.eq_zero_or_pos (numberOf d.digits) with hz | hpos
      · rw [hz, Nat.cast_zero, zero_mul, zero_mul]
      · have hlength : d.digits.length ≤ 65000 := (h e he).resolve_left (Nat.not_lt.mpr hge)
        have hread : 2 ^ 16 ≤ Literal.exponentValue e.digits :=
          Literal.le_foldl_takeDigit (Nat.le_trans (by decide) hge)
        rw [isNearest_iff_of_exponent (Nat.le_trans (by decide) hge) hpos hlength,
          isNearest_iff_of_exponent hread hpos hlength]

theorem isNearest_readNumber_iff :
    x.IsNearest negative d.readNumber ↔
      x = .ofDecimal negative (digitsValue d.digits) (d.place Exponent.readNumber) := by
  rw [readNumber, numberOf_eq]
  exact Binary64.isNearest_decimal_iff

end Decimal

namespace Spelling

/-- The double that a spelling stands for. That of a decimal is the nearest one to the number spelled, or to the
number that is read of it where these two are told apart. -/
def Denotes (s : Spelling) (x : Binary64) : Prop :=
  match s with
  | nan .. => x = .nan
  | infinity sign .. => x = .infinite sign.isMinus
  | decimal sign d =>
    (d.IsExact → x.IsNearest sign.isMinus d.number) ∧ (¬ d.IsExact → x.IsNearest sign.isMinus d.readNumber)

theorem denotes_iff {s : Spelling} {x : Binary64} : s.Denotes x ↔ x = s.literal.value := by
  cases s with
  | nan => rfl
  | infinity => rfl
  | decimal sign d =>
    rw [literal, Literal.value, ← Decimal.isNearest_readNumber_iff]
    constructor
    · rintro ⟨hexact, hread⟩
      by_cases h : d.IsExact
      · exact (Decimal.isNearest_number_iff h).mp (hexact h)
      · exact hread h
    · intro hx
      exact ⟨fun h => (Decimal.isNearest_number_iff h).mpr hx, fun _ => hx⟩

end Spelling

end ColorCube
