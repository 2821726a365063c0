import Mathlib.Data.List.TakeDrop
import ColorCube.Number.Fixed
import ColorCube.Number.Literal

/-!
# Numerals read back

Digits spell the number they were made of, zeros in front or not, so a whole number and a decimal with six
places are literals for just what they show.
-/

namespace ColorCube

theorem digits_ne_nil (n : Nat) : digits n ≠ [] := Nat.toDigits_ne_nil

theorem isDigit_of_mem_digits {n : Nat} {c : Char} (h : c ∈ digits n) : c.isDigit :=
  Nat.isDigit_of_mem_toDigits (by decide) (by decide) h

theorem exists_cons_digits (n : Nat) : ∃ c s, digits n = c :: s ∧ c.isDigit := by
  obtain ⟨c, s, hs⟩ := List.exists_cons_of_ne_nil (digits_ne_nil n)
  have hc : c ∈ digits n := by simp [hs]
  exact ⟨c, s, hs, isDigit_of_mem_digits hc⟩

theorem isDigit_of_mem_leftpad {n k : Nat} {c : Char} (h : c ∈ (digits n).leftpad k '0') :
    c.isDigit := by
  rw [List.leftpad, List.mem_append] at h
  rcases h with h | h
  · rw [(List.mem_replicate.mp h).2]
    decide
  · exact isDigit_of_mem_digits h

@[simp] theorem digitsValue_digits (n : Nat) : digitsValue (digits n) = n := by
  rw [digitsValue_eq]
  exact Nat.ofDigitChars_ten_toDigits

theorem digitsValue_append (s t : List Char) :
    digitsValue (s ++ t) = 10 ^ t.length * digitsValue s + digitsValue t := by
  rw [digitsValue_eq, digitsValue_eq, digitsValue_eq, Nat.ofDigitChars_append,
    Nat.ofDigitChars_eq_ofDigitChars_zero]

@[simp] theorem digitsValue_leftpad (s : List Char) (k : Nat) :
    digitsValue (s.leftpad k '0') = digitsValue s := by
  have hz : digitsValue (List.replicate (k - s.length) '0') = 0 := by
    rw [digitsValue_eq, Nat.ofDigitChars_replicate_zero, Nat.mul_zero]
  rw [List.leftpad, digitsValue_append, hz, Nat.mul_zero, Nat.zero_add]

theorem length_leftpad_digits {n k : Nat} (hk : 0 < k) (h : n < 10 ^ k) :
    ((digits n).leftpad k '0').length = k := by
  have hl : (digits n).length ≤ k := (Nat.length_toDigits_le_iff (by decide) hk).mpr h
  rw [List.length_leftpad]
  exact Nat.max_eq_left hl

/-- The whole part and the six places spell the count of millionths. -/
theorem digitsValue_sixPlaces (n : Nat) :
    digitsValue (digits (n / 10 ^ 6) ++ (digits (n % 10 ^ 6)).leftpad 6 '0') = n := by
  have hmod : n % 10 ^ 6 < 10 ^ 6 := Nat.mod_lt n (by decide)
  rw [digitsValue_append, length_leftpad_digits (by decide) hmod, digitsValue_leftpad,
    digitsValue_digits, digitsValue_digits]
  exact Nat.div_add_mod n (10 ^ 6)

/-- The digits at the front of a text are taken together, up to the end or to a character that is none. -/
theorem span_isDigit_append {w : List Char} (rest : List Char) (hw : ∀ c ∈ w, c.isDigit)
    (hr : ∀ c ∈ rest.head?, c.isDigit = false) : (w ++ rest).span Char.isDigit = (w, rest) := by
  rw [List.span_eq_takeWhile_dropWhile, List.takeWhile_append_of_pos hw,
    List.dropWhile_append_of_pos hw]
  cases rest with
  | nil => simp
  | cons c s => simp [hr c rfl]

theorem splitSign_of_isDigit {c : Char} (s : List Char) (h : c.isDigit) :
    splitSign (c :: s) = (false, c :: s) := by
  unfold splitSign
  split
  · simp_all
  · simp_all
  · rfl

theorem splitSign_minusIf (negative : Bool) {c : Char} (s : List Char) (h : c.isDigit) :
    splitSign (minusIf negative (c :: s)) = (negative, c :: s) := by
  cases negative with
  | false => exact splitSign_of_isDigit s h
  | true => rfl

namespace Literal

theorem decimal?_whole {w : List Char} (hne : w ≠ []) (hw : ∀ c ∈ w, c.isDigit) :
    decimal? w = some (digitsValue w, 0) := by
  have hs := span_isDigit_append [] hw (by simp)
  rw [List.append_nil] at hs
  unfold decimal?
  simp only [hs, splitFraction]
  simp [hne, exponent?]

theorem decimal?_point {w f : List Char} (hne : w ≠ []) (hw : ∀ c ∈ w, c.isDigit)
    (hf : ∀ c ∈ f, c.isDigit) :
    decimal? (w ++ '.' :: f) = some (digitsValue (w ++ f), -(f.length : Int)) := by
  have hs := span_isDigit_append ('.' :: f) hw (by simp)
  have ht := span_isDigit_append [] hf (by simp)
  rw [List.append_nil] at ht
  unfold decimal?
  simp only [hs, splitFraction, ht]
  simp [hne, exponent?]

/-- A decimal that begins with a digit is read with or without a minus. -/
theorem ofChars?_minusIf (negative : Bool) {c : Char} {s : List Char} {n : Nat} {e : Int}
    (hc : c.isDigit) (hd : decimal? (c :: s) = some (n, e)) :
    ofChars? (minusIf negative (c :: s)) = some (.decimal negative n e) := by
  unfold ofChars?
  rw [splitSign_minusIf negative s hc]
  simp only [hd]

/-- The digits of a number are a literal for it. -/
theorem ofChars?_digits (n : Nat) : ofChars? (digits n) = some (.decimal false n 0) := by
  have hd := decimal?_whole (digits_ne_nil n) (fun _ => isDigit_of_mem_digits)
  obtain ⟨c, s, hs, hc⟩ := exists_cons_digits n
  rw [digitsValue_digits, hs] at hd
  rw [hs]
  exact ofChars?_minusIf false hc hd

/-- A decimal with six places is a literal for its count of millionths. -/
theorem ofChars?_sixPlaces (negative : Bool) (n : Nat) :
    ofChars? (minusIf negative (sixPlaces n)) = some (.decimal negative n (-6)) := by
  have hd := decimal?_point (digits_ne_nil (n / 10 ^ 6)) (fun _ => isDigit_of_mem_digits)
    (fun _ => isDigit_of_mem_leftpad (n := n % 10 ^ 6) (k := 6))
  rw [digitsValue_sixPlaces, length_leftpad_digits (by decide) (Nat.mod_lt n (by decide))] at hd
  obtain ⟨c, s, hs, hc⟩ := exists_cons_digits (n / 10 ^ 6)
  rw [hs] at hd
  rw [sixPlaces, hs]
  exact ofChars?_minusIf negative hc hd

end Literal

end ColorCube
