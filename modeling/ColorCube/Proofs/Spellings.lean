import ColorCube.Proofs.Nearest
import ColorCube.Proofs.Replacement

/-!
# Spellings of literals

A literal is put together from a sign and either a word or a decimal, and a decimal from digits, maybe a point and
maybe an exponent. What is read as a literal is what can be put together so, and its value is the double nearest to
the number that it spells.

An exponent is read until it has reached 2^16. So the number that counts is another one than the number spelled where
an exponent of 10 * 2^16 or more stands with more than 65000 digits; with fewer ones the number is too large for a
finite double, or too small for one other than zero, either way.
-/

namespace ColorCube

/-- The number that decimal digits spell. -/
def numberOf (ds : List Char) : Nat := Nat.ofDigitChars 10 ds 0

theorem numberOf_eq (ds : List Char) : numberOf ds = digitsValue ds := (digitsValue_eq ds).symm

@[simp] theorem numberOf_nil : numberOf [] = 0 := Nat.ofDigitChars_nil

theorem numberOf_append (s t : List Char) : numberOf (s ++ t) = 10 ^ t.length * numberOf s + numberOf t := by
  rw [numberOf_eq, numberOf_eq, numberOf_eq, digitsValue_append]

theorem numberOf_cons (c : Char) (s : List Char) :
    numberOf (c :: s) = 10 ^ s.length * (c.toNat - 48) + numberOf s := by
  rw [numberOf, Nat.ofDigitChars_cons, Nat.ofDigitChars_eq_ofDigitChars_zero, Nat.mul_zero, Nat.zero_add]
  rfl

inductive Sign where
  | none
  | plus
  | minus
  deriving DecidableEq

namespace Sign

def text : Sign → List Char
  | none => []
  | plus => ['+']
  | minus => ['-']

def isMinus : Sign → Bool
  | minus => true
  | _ => false

/-- A sign in front of what does not begin with one is split off again. -/
theorem splitSign_text (sign : Sign) {s : List Char} (h : ∀ c ∈ s.head?, c ≠ '+' ∧ c ≠ '-') :
    splitSign (sign.text ++ s) = (sign.isMinus, s) := by
  cases sign with
  | none =>
    cases s with
    | nil => rfl
    | cons c s =>
      obtain ⟨hp, hm⟩ := h c rfl
      change splitSign (c :: s) = (false, c :: s)
      unfold splitSign
      split
      · simp_all
      · simp_all
      · rfl
  | plus => rfl
  | minus => rfl

theorem exists_text_append (s : List Char) :
    ∃ sign : Sign, s = sign.text ++ (splitSign s).2 ∧ (splitSign s).1 = sign.isMinus := by
  unfold splitSign
  split
  · exact ⟨minus, rfl, rfl⟩
  · exact ⟨plus, rfl, rfl⟩
  · exact ⟨none, rfl, rfl⟩

end Sign

/-- The exponent of a decimal. -/
structure Exponent where
  mark : Char
  sign : Sign
  digits : List Char
  mark_eq : mark = 'e' ∨ mark = 'E'
  digits_ne_nil : digits ≠ []
  isDigit : ∀ c ∈ digits, c.isDigit

namespace Exponent

def text (e : Exponent) : List Char := e.mark :: (e.sign.text ++ e.digits)

def signed (sign : Sign) (n : Nat) : Int := if sign.isMinus then -n else n

/-- The whole number that an exponent spells. -/
def number (e : Exponent) : Int := signed e.sign (numberOf e.digits)

/-- The whole number that is read, without the digits that are passed over. -/
def readNumber (e : Exponent) : Int := signed e.sign (Literal.exponentValue e.digits)

theorem exponent?_text (e : Exponent) : Literal.exponent? e.text = some e.readNumber := by
  have hhead : ∀ c ∈ e.digits.head?, c ≠ '+' ∧ c ≠ '-' := by
    intro c hc
    have hd := e.isDigit c (List.mem_of_mem_head? hc)
    constructor
    · rintro rfl
      exact absurd hd (by decide)
    · rintro rfl
      exact absurd hd (by decide)
  have hsplit := e.sign.splitSign_text hhead
  have hall : e.digits.all Char.isDigit := List.all_eq_true.mpr e.isDigit
  unfold text Literal.exponent?
  simp only [hsplit, e.mark_eq, ne_eq, e.digits_ne_nil, not_false_eq_true, hall, and_self, if_true]
  rfl

/-- What is read after the digits is an exponent or nothing. -/
theorem exists_of_exponent? {s : List Char} {n : Int} (h : Literal.exponent? s = some n) :
    ∃ e : Option Exponent, s = e.elim [] text ∧ n = e.elim 0 readNumber := by
  cases s with
  | nil =>
    cases h
    exact ⟨none, rfl, rfl⟩
  | cons c s =>
    obtain ⟨sign, hs, hsign⟩ := Sign.exists_text_append s
    simp only [Literal.exponent?, Option.ite_none_right_eq_some, Option.some.injEq] at h
    obtain ⟨⟨hc, hne, hall⟩, hn⟩ := h
    refine ⟨some ⟨c, sign, (splitSign s).2, hc, hne, List.all_eq_true.mp hall⟩, ?_, ?_⟩
    · exact congrArg (c :: ·) hs
    · rw [← hn, hsign]
      rfl

end Exponent

/-- A decimal without its sign. There may be a point without digits on one side of it. -/
structure Decimal where
  whole : List Char
  fraction : Option (List Char)
  exponent : Option Exponent
  isDigit_whole : ∀ c ∈ whole, c.isDigit
  isDigit_fraction : ∀ c ∈ fraction.getD [], c.isDigit
  digits_ne_nil : whole ++ fraction.getD [] ≠ []

namespace Decimal

def digits (d : Decimal) : List Char := d.whole ++ d.fraction.getD []

def text (d : Decimal) : List Char :=
  d.whole ++ (d.fraction.elim [] ('.' :: ·) ++ d.exponent.elim [] Exponent.text)

/-- The power of ten for the digits, given what an exponent counts for. -/
def place (d : Decimal) (count : Exponent → Int) : Int :=
  d.exponent.elim 0 count - (d.fraction.getD []).length

/-- The number that a decimal spells. -/
def number (d : Decimal) : ℚ := numberOf d.digits * (10 : ℚ) ^ d.place Exponent.number

/-- The number that is read, with the exponent that is read. -/
def readNumber (d : Decimal) : ℚ := numberOf d.digits * (10 : ℚ) ^ d.place Exponent.readNumber

theorem isDigit {d : Decimal} {c : Char} (h : c ∈ d.digits) : c.isDigit := by
  rcases List.mem_append.mp h with h | h
  · exact d.isDigit_whole c h
  · exact d.isDigit_fraction c h

/-- No digit follows the whole part, so all of it is found. -/
theorem isDigit_of_head?_exponent (e : Option Exponent) :
    ∀ c ∈ (e.elim [] Exponent.text).head?, c.isDigit = false ∧ c ≠ '.' := by
  cases e with
  | none => nofun
  | some e =>
    intro c hc
    obtain rfl : e.mark = c := Option.some.inj hc
    rcases e.mark_eq with h | h
    · rw [h]
      decide
    · rw [h]
      decide

theorem splitFraction_text (d : Decimal) :
    Literal.splitFraction (d.fraction.elim [] ('.' :: ·) ++ d.exponent.elim [] Exponent.text) =
      (d.fraction.getD [], d.exponent.elim [] Exponent.text) := by
  have hhead := isDigit_of_head?_exponent d.exponent
  have hf := d.isDigit_fraction
  cases hfraction : d.fraction with
  | none =>
    change Literal.splitFraction (d.exponent.elim [] Exponent.text) = ([], d.exponent.elim [] Exponent.text)
    unfold Literal.splitFraction
    split
    next s hs =>
      rw [hs] at hhead
      exact absurd rfl (hhead '.' rfl).2
    next => rfl
  | some f =>
    rw [hfraction] at hf
    exact span_isDigit_append _ hf fun c hc => (hhead c hc).1

/-- A decimal is read as its digits and its power of ten. -/
theorem decimal?_text (d : Decimal) :
    Literal.decimal? d.text = some (digitsValue d.digits, d.place Exponent.readNumber) := by
  have hrest : ∀ c ∈ (d.fraction.elim [] ('.' :: ·) ++ d.exponent.elim [] Exponent.text).head?,
      c.isDigit = false := by
    cases d.fraction with
    | none => exact fun c hc => (isDigit_of_head?_exponent d.exponent c hc).1
    | some f =>
      intro c hc
      obtain rfl : '.' = c := Option.some.inj hc
      decide
  have hspan := span_isDigit_append _ d.isDigit_whole hrest
  have hexponent : Literal.exponent? (d.exponent.elim [] Exponent.text) =
      some (d.exponent.elim 0 Exponent.readNumber) := by
    cases d.exponent with
    | none => rfl
    | some e => exact e.exponent?_text
  unfold text Literal.decimal?
  simp only [hspan, d.splitFraction_text, hexponent, d.digits_ne_nil, if_false, Option.map_some]
  rfl

theorem exists_of_splitFraction (s : List Char) :
    ∃ f : Option (List Char), s = f.elim [] ('.' :: ·) ++ (Literal.splitFraction s).2 ∧
      (Literal.splitFraction s).1 = f.getD [] ∧ ∀ c ∈ f.getD [], c.isDigit := by
  unfold Literal.splitFraction
  split
  next s =>
    obtain ⟨hs, hd⟩ := span_isDigit_eq (s := s) rfl
    exact ⟨some (s.span Char.isDigit).1, congrArg ('.' :: ·) hs, rfl, hd⟩
  next => exact ⟨none, rfl, rfl, nofun⟩

/-- What is read as a decimal is one. -/
theorem exists_of_decimal? {s : List Char} {n : Nat} {e : Int} (h : Literal.decimal? s = some (n, e)) :
    ∃ d : Decimal, d.text = s ∧ digitsValue d.digits = n ∧ d.place Exponent.readNumber = e := by
  rcases hspan : s.span Char.isDigit with ⟨whole, rest⟩
  obtain ⟨hs, hwhole⟩ := span_isDigit_eq hspan
  obtain ⟨f, hf, hfraction, hdigits⟩ := exists_of_splitFraction rest
  simp only [Literal.decimal?, hspan, Option.ite_none_left_eq_some, Option.map_eq_some_iff, Prod.mk.injEq] at h
  obtain ⟨hne, x, hx, hn, he⟩ := h
  obtain ⟨exponent, htext, hread⟩ := Exponent.exists_of_exponent? hx
  rw [hfraction] at hne hn he
  refine ⟨⟨whole, f, exponent, hwhole, hdigits, hne⟩, ?_, hn, ?_⟩
  · rw [text, ← htext, ← hf, ← hs]
  · rw [← he, hread]
    rfl

end Decimal

/-- How a literal is put together. The words may have capital letters. -/
inductive Spelling where
  | nan (sign : Sign) (letters : List Char) (h : letters.map Char.toLower = "nan".toList)
  | infinity (sign : Sign) (letters : List Char)
      (h : letters.map Char.toLower = "inf".toList ∨ letters.map Char.toLower = "infinity".toList)
  | decimal (sign : Sign) (d : Decimal)

namespace Spelling

def text : Spelling → List Char
  | nan sign letters _ => sign.text ++ letters
  | infinity sign letters _ => sign.text ++ letters
  | decimal sign d => sign.text ++ d.text

def literal : Spelling → Literal
  | nan .. => .nan
  | infinity sign .. => .infinity sign.isMinus
  | decimal sign d => .decimal sign.isMinus (digitsValue d.digits) (d.place Exponent.readNumber)

/-- Only a letter has a letter as its small letter. -/
theorem of_toLower_eq {c l : Char} (h : c.toLower = l) (hl : 'a' ≤ l) :
    c.isDigit = false ∧ c ≠ '.' ∧ c ≠ '+' ∧ c ≠ '-' := by
  subst h
  have hself : ∀ d : Char, d.toLower = d → d < 'a' → c ≠ d := by
    rintro d hd hlt rfl
    rw [hd] at hl
    exact absurd hl (Char.not_le.mpr hlt)
  refine ⟨?_, hself '.' rfl (by decide), hself '+' rfl (by decide), hself '-' rfl (by decide)⟩
  by_contra hc
  rw [Bool.not_eq_false, Char.isDigit_iff_toNat] at hc
  have hsmall : c.toLower = c := by
    unfold Char.toLower
    rw [dif_neg]
    rintro ⟨hA, -⟩
    exact absurd (Nat.le_trans hA hc.2) (by decide)
  rw [hsmall] at hl
  exact absurd (Nat.le_trans hl hc.2) (by decide)

/-- The words begin with a letter, so neither a sign nor a decimal is found in front of them. -/
theorem decimal?_letters {letters : List Char} {l : Char} {w : List Char}
    (h : letters.map Char.toLower = l :: w) (hl : 'a' ≤ l) :
    Literal.decimal? letters = none ∧ ∀ c ∈ letters.head?, c ≠ '+' ∧ c ≠ '-' := by
  cases letters with
  | nil => cases h
  | cons c s =>
    rw [List.map_cons, List.cons.injEq] at h
    obtain ⟨hdigit, hpoint, hsigns⟩ := of_toLower_eq h.1 hl
    constructor
    · have hspan : (c :: s).span Char.isDigit = ([], c :: s) := by
        rw [List.span_eq_takeWhile_dropWhile, List.takeWhile_cons_of_neg (by simp [hdigit]),
          List.dropWhile_cons_of_neg (by simp [hdigit])]
      have hfraction : Literal.splitFraction (c :: s) = ([], c :: s) := by
        unfold Literal.splitFraction
        split
        next hs => exact absurd (List.cons.inj hs).1 hpoint
        next => rfl
      unfold Literal.decimal?
      simp only [hspan, hfraction, List.append_nil, if_true]
    · intro d hd
      obtain rfl : c = d := Option.some.inj hd
      exact hsigns

/-- A decimal begins with a digit or a point. -/
theorem head?_decimal (d : Decimal) : ∀ c ∈ d.text.head?, c ≠ '+' ∧ c ≠ '-' := by
  have hhead : ∀ c ∈ d.text.head?, c.isDigit ∨ c = '.' := by
    have hne := d.digits_ne_nil
    have hdigit := d.isDigit_whole
    unfold Decimal.text
    cases hw : d.whole with
    | nil =>
      rw [hw] at hne
      cases hf : d.fraction with
      | none =>
        rw [hf] at hne
        exact absurd rfl hne
      | some f =>
        intro c hc
        exact Or.inr (Option.some.inj hc).symm
    | cons a s =>
      intro c hc
      rw [hw] at hdigit
      obtain rfl : a = c := Option.some.inj hc
      exact Or.inl (hdigit a List.mem_cons_self)
  intro c hc
  constructor
  · rintro rfl
    exact absurd (hhead '+' hc) (by decide)
  · rintro rfl
    exact absurd (hhead '-' hc) (by decide)

/-- Whatever is put together is read as what it was put together for. -/
theorem ofChars?_text (s : Spelling) : Literal.ofChars? s.text = some s.literal := by
  unfold Literal.ofChars? text
  cases s with
  | nan sign letters h =>
    obtain ⟨hnone, hhead⟩ := decimal?_letters h (by decide)
    have hword : Literal.word? sign.isMinus letters = some .nan := by
      simp [Literal.word?, h]
    simp only [sign.splitSign_text hhead, hnone, hword, literal]
  | infinity sign letters h =>
    have hboth : Literal.decimal? letters = none ∧ ∀ c ∈ letters.head?, c ≠ '+' ∧ c ≠ '-' := by
      rcases h with h | h
      · exact decimal?_letters h (by decide)
      · exact decimal?_letters h (by decide)
    have hword : Literal.word? sign.isMinus letters = some (.infinity sign.isMinus) := by
      unfold Literal.word?
      rw [if_pos h]
    simp only [sign.splitSign_text hboth.2, hboth.1, hword, literal]
  | decimal sign d =>
    simp only [sign.splitSign_text (head?_decimal d), d.decimal?_text, literal]

/-- And nothing else is read. -/
theorem exists_of_ofChars? {w : List Char} {l : Literal} (h : Literal.ofChars? w = some l) :
    ∃ s : Spelling, s.text = w ∧ s.literal = l := by
  obtain ⟨sign, hw, hsign⟩ := Sign.exists_text_append w
  unfold Literal.ofChars? at h
  cases hd : Literal.decimal? (splitSign w).2 with
  | some ne =>
    obtain ⟨d, htext, hdigits, hplace⟩ := Decimal.exists_of_decimal? hd
    simp only [hd, hsign, Option.some.injEq] at h
    refine ⟨decimal sign d, ?_, ?_⟩
    · rw [text, htext, ← hw]
    · rw [← h, literal, hdigits, hplace]
  | none =>
    simp only [hd, hsign, Literal.word?] at h
    split at h
    next hword =>
      cases h
      exact ⟨infinity sign (splitSign w).2 hword, hw.symm, rfl⟩
    next =>
      split at h
      next hword =>
        cases h
        exact ⟨nan sign (splitSign w).2 hword, hw.symm, rfl⟩
      next => cases h

end Spelling

end ColorCube
