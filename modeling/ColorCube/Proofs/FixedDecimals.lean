import ColorCube.Proofs.SpelledNumbers

/-!
# Decimals with six places

A decimal with six places has digits before its point, without zeros in front of them, and six behind it. There is one
such decimal for each count of millionths, and that is how the count is printed.
-/

namespace ColorCube

theorem numberOf_concat (s : List Char) (c : Char) : numberOf (s ++ [c]) = 10 * numberOf s + (c.toNat - 48) := by
  simp [numberOf_append, numberOf_cons]

@[simp] theorem numberOf_digits (n : Nat) : numberOf (digits n) = n := by
  rw [numberOf_eq, digitsValue_digits]

@[simp] theorem numberOf_leftpad (s : List Char) (k : Nat) : numberOf (s.leftpad k '0') = numberOf s := by
  rw [numberOf_eq, digitsValue_leftpad, numberOf_eq]

theorem toNat_of_isDigit {c : Char} (h : c.isDigit) : 48 ≤ c.toNat ∧ c.toNat ≤ 57 := Char.isDigit_iff_toNat.mp h

theorem digitChar_of_isDigit {c : Char} (h : c.isDigit) : (c.toNat - 48).digitChar = c := by
  obtain ⟨hlow, hhigh⟩ := toNat_of_isDigit h
  apply Char.toNat_inj.mp
  rw [Nat.toNat_digitChar_of_lt_ten (by omega)]
  omega

/-- Digits of a given length are told by their number. -/
theorem eq_of_numberOf_eq {s t : List Char} (hs : ∀ c ∈ s, c.isDigit) (ht : ∀ c ∈ t, c.isDigit)
    (hlength : s.length = t.length) (h : numberOf s = numberOf t) : s = t := by
  induction s generalizing t with
  | nil => exact (List.length_eq_zero_iff.mp hlength.symm).symm
  | cons c s ih =>
    cases t with
    | nil => cases hlength
    | cons d t =>
      obtain ⟨hc, hs⟩ := List.forall_mem_cons.mp hs
      obtain ⟨hd, ht⟩ := List.forall_mem_cons.mp ht
      have hlen : s.length = t.length := Nat.succ.inj hlength
      have hslt := numberOf_lt hs
      have htlt := numberOf_lt ht
      rw [numberOf_cons, numberOf_cons, ← hlen] at h
      rw [← hlen] at htlt
      have hpos : 0 < 10 ^ s.length := Nat.pow_pos (by decide)
      have hfirst : c.toNat - 48 = d.toNat - 48 := by
        have hdiv := congrArg (· / 10 ^ s.length) h
        simp only [Nat.mul_add_div hpos, Nat.div_eq_of_lt hslt, Nat.div_eq_of_lt htlt, Nat.add_zero] at hdiv
        exact hdiv
      have hrest : numberOf s = numberOf t := by
        rw [hfirst] at h
        exact Nat.add_left_cancel h
      rw [← digitChar_of_isDigit hc, ← digitChar_of_isDigit hd, hfirst, ih hs ht hlen hrest]

/-- A number begins with a zero only if that is all of it. -/
theorem digits_eq_of_head? {n : Nat} (h : (digits n).head? = some '0') : digits n = ['0'] := by
  induction n using Nat.strongRecOn with
  | ind n ih =>
    rcases Nat.lt_or_ge n 10 with hn | hn
    · rw [digits, Nat.toDigits_of_lt_base hn, List.head?_cons, Option.some.injEq] at h
      rw [digits, Nat.toDigits_of_lt_base hn, h]
    · have hstep : digits n = digits (n / 10) ++ [(n % 10).digitChar] := Nat.toDigits_of_base_le (by decide) hn
      rw [hstep, List.head?_append_of_ne_nil _ (digits_ne_nil _)] at h
      have hfront := congrArg numberOf (ih (n / 10) (by omega) h)
      rw [numberOf_digits] at hfront
      have hzero : numberOf ['0'] = 0 := by decide
      omega

/-- Digits without zeros in front are those of their number. -/
theorem digits_numberOf {s : List Char} (hne : s ≠ []) (hs : ∀ c ∈ s, c.isDigit)
    (hzero : s.head? = some '0' → s = ['0']) : digits (numberOf s) = s := by
  induction s using List.reverseRecOn with
  | nil => exact absurd rfl hne
  | append_singleton s c ih =>
    obtain ⟨hs, hc⟩ := List.forall_mem_append.mp hs
    have hc := List.forall_mem_singleton.mp hc
    obtain ⟨hlow, hhigh⟩ := toNat_of_isDigit hc
    have hlt : c.toNat - 48 < 10 := by omega
    have hlast : Nat.toDigits 10 (c.toNat - 48) = [c] := by
      rw [Nat.toDigits_of_lt_base hlt, digitChar_of_isDigit hc]
    rw [numberOf_concat]
    by_cases h : s = []
    · subst h
      rw [numberOf_nil, Nat.mul_zero, Nat.zero_add, digits, hlast, List.nil_append]
    · have hhead : s.head? ≠ some '0' := by
        intro h0
        have hlength := congrArg List.length (hzero (by rw [List.head?_append_of_ne_nil _ h, h0]))
        rw [List.length_append, List.length_singleton, List.length_singleton] at hlength
        exact h (List.length_eq_zero_iff.mp (by omega))
      have hfront := ih h hs fun h0 => absurd h0 hhead
      have hpos : 0 < numberOf s := by
        rw [Nat.pos_iff_ne_zero]
        intro h0
        rw [h0] at hfront
        rw [← hfront] at hhead
        exact hhead rfl
      rw [digits, ← Nat.toDigits_append_toDigits (by decide) hpos hlt, hlast, ← digits, hfront]

/-- A decimal with six places. Only a whole part of zero begins with a zero. -/
structure FixedDecimal where
  whole : List Char
  places : List Char
  isDigit_whole : ∀ c ∈ whole, c.isDigit
  isDigit_places : ∀ c ∈ places, c.isDigit
  whole_ne_nil : whole ≠ []
  whole_eq_zero : whole.head? = some '0' → whole = ['0']
  length_places : places.length = 6

namespace FixedDecimal

def text (d : FixedDecimal) : List Char := d.whole ++ '.' :: d.places

/-- The millionths that a decimal stands for. -/
def millionths (d : FixedDecimal) : Nat := numberOf (d.whole ++ d.places)

/-- A decimal is printed for its millionths. -/
theorem text_eq (d : FixedDecimal) : d.text = sixPlaces d.millionths := by
  have hlt := numberOf_lt d.isDigit_places
  have hsplit : d.millionths = 10 ^ 6 * numberOf d.whole + numberOf d.places := by
    rw [millionths, numberOf_append, d.length_places]
  rw [d.length_places] at hlt
  have hdiv : d.millionths / 10 ^ 6 = numberOf d.whole := by omega
  have hmod : d.millionths % 10 ^ 6 = numberOf d.places := by omega
  have hplaces : (digits (numberOf d.places)).leftpad 6 '0' = d.places := by
    refine eq_of_numberOf_eq (fun _ => isDigit_of_mem_leftpad) d.isDigit_places ?_ ?_
    · rw [length_leftpad_digits (by decide) hlt, d.length_places]
    · rw [numberOf_leftpad, numberOf_digits]
  rw [sixPlaces, hdiv, hmod, hplaces, digits_numberOf d.whole_ne_nil d.isDigit_whole d.whole_eq_zero, text]

/-- And each count of millionths has its decimal. -/
theorem exists_millionths_eq (n : Nat) : ∃ d : FixedDecimal, d.millionths = n := by
  refine ⟨⟨digits (n / 10 ^ 6), (digits (n % 10 ^ 6)).leftpad 6 '0', fun _ => isDigit_of_mem_digits,
    fun _ => isDigit_of_mem_leftpad, digits_ne_nil _, digits_eq_of_head?,
    length_leftpad_digits (by decide) (Nat.mod_lt n (by decide))⟩, ?_⟩
  rw [millionths, numberOf_eq, digitsValue_sixPlaces]

end FixedDecimal

end ColorCube
