import ColorCube.Proofs.Overflow
import ColorCube.Proofs.RecordGrammar
import ColorCube.Proofs.Rendering

/-!
# The order of printed decimals

Three roundings stand between the decimal in a line and the decimal that is printed for it: to a double, to the
quotient by full scale, and to six places. Each of them keeps the order and is exact at zero and at full scale, so the
printed decimals are in the order of the ones read, and what lies between zero and full scale is printed between 0
and 1.
-/

namespace ColorCube

/-- Rounding a quotient keeps the order. -/
theorem nearestEven_mono {m n d : Nat} (hd : 0 < d) (h : m ≤ n) : nearestEven m d ≤ nearestEven n d := by
  by_contra hlt
  have hstep := Nat.mul_le_mul_right d (Nat.not_le.mp hlt)
  have hm := two_mul_nearestEven_le m hd
  have hn := two_mul_le_nearestEven n hd
  rw [Nat.succ_mul] at hstep
  obtain rfl : m = n := by omega
  exact hlt (le_refl _)

theorem Magnitude.millionths_mono {m k : Magnitude} (h : m.units ≤ k.units) : m.millionths ≤ k.millionths :=
  nearestEven_mono unitsPerOne_pos (Nat.mul_le_mul_right _ h)

theorem Magnitude.value_pos {m : Magnitude} (h : 0 < m.units) : 0 < m.value :=
  div_pos (Nat.cast_pos.mpr h) unitsPerOne_cast_pos

theorem Binary64.exists_of_isNearest {x : Binary64} {negative : Bool} {q : ℚ} (h : x.IsNearest negative q)
    (hx : x.isFinite) : ∃ m, x = .finite negative m := by
  obtain ⟨s, m, rfl⟩ := exists_of_isFinite hx
  obtain ⟨rfl, -⟩ := h
  exact ⟨m, rfl⟩

theorem Binary64.div_isNearest {f : Magnitude} (hf : 0 < f.units) (negative : Bool) (a : Magnitude) :
    (Binary64.finite negative a / .finite false f).IsNearest negative (a.units / f.units) := by
  rw [div_finite _ _ _ _ (Nat.ne_of_gt hf), Bool.bne_false]
  exact (isNearest_div_iff hf).mpr rfl

/-- What is printed for a number, in millionths: it is rounded to a magnitude, which is divided by full scale. -/
def PrintedFor (f : Magnitude) (negative : Bool) (q : ℚ) (n : Nat) : Prop :=
  ∃ a m : Magnitude, (Binary64.finite negative a).IsNearest negative q ∧
    (Binary64.finite negative m).IsNearest negative (a.units / f.units) ∧ n = m.millionths

section Printing

variable {f : Magnitude} {s t : Bool} {q r : ℚ} {n k : Nat}

theorem PrintedFor.le (hf : 0 < f.units) (h : PrintedFor f s q n) (h' : PrintedFor f t r k) (hq : 0 ≤ q)
    (hle : q ≤ r) : n ≤ k := by
  obtain ⟨a, m, ha, hm, rfl⟩ := h
  obtain ⟨b, l, hb, hl, rfl⟩ := h'
  have hunits : (a.units : ℚ) ≤ b.units := Nat.cast_le.mpr (ha.units_le hb hq hle)
  have hpos : (0 : ℚ) < f.units := Nat.cast_pos.mpr hf
  have hquotient : (a.units : ℚ) / f.units ≤ b.units / f.units := div_le_div_of_nonneg_right hunits hpos.le
  have hnonneg : (0 : ℚ) ≤ a.units / f.units := div_nonneg (Nat.cast_nonneg _) hpos.le
  exact Magnitude.millionths_mono (hm.units_le hl hnonneg hquotient)

/-- Zero is printed as zero. -/
theorem printedFor_zero (f : Magnitude) : PrintedFor f false 0 0 := by
  have hvalue : Magnitude.zero.value = 0 := by rw [Magnitude.value, Magnitude.units_zero, Nat.cast_zero, zero_div]
  have hzero := Binary64.isNearest_value false .zero
  rw [hvalue] at hzero
  refine ⟨.zero, .zero, hzero, ?_, ?_⟩
  · rwa [Magnitude.units_zero, Nat.cast_zero, zero_div]
  · rw [Magnitude.millionths, Magnitude.units_zero, Nat.zero_mul, nearestEven_zero _ unitsPerOne_pos]

/-- Full scale is printed as a million millionths. -/
theorem printedFor_fullScale (hf : 0 < f.units) : PrintedFor f false f.value 1000000 := by
  obtain ⟨one, -, hunits⟩ := Binary64.ofNat_eq_finite (n := 1) (by decide)
  rw [Nat.one_mul] at hunits
  have hvalue : one.value = f.units / f.units := by
    rw [Magnitude.value, hunits, div_self (ne_of_gt unitsPerOne_cast_pos),
      div_self (Nat.cast_ne_zero.mpr (Nat.ne_of_gt hf))]
  have hone := Binary64.isNearest_value false one
  rw [hvalue] at hone
  refine ⟨f, one, Binary64.isNearest_value false f, hone, ?_⟩
  rw [Magnitude.millionths, hunits, Nat.mul_comm, nearestEven_mul_self _ _ unitsPerOne_pos]
  rfl

theorem PrintedFor.eq_zero (hf : 0 < f.units) (h : PrintedFor f s 0 n) : n = 0 :=
  Nat.le_zero.mp (h.le hf (printedFor_zero f) (le_refl 0) (le_refl 0))

theorem PrintedFor.eq_million (hf : 0 < f.units) (h : PrintedFor f s f.value n) : n = 1000000 := by
  have hscale := printedFor_fullScale hf
  have hnonneg := (Magnitude.value_pos hf).le
  exact Nat.le_antisymm (h.le hf hscale hnonneg (le_refl _)) (hscale.le hf h hnonneg (le_refl _))

/-- With their signs the numbers are printed in their order, too. -/
theorem PrintedFor.signedBy_le (hf : 0 < f.units) (h : PrintedFor f s q n) (h' : PrintedFor f t r k) (hq : 0 ≤ q)
    (hr : 0 ≤ r) (hle : signedBy s q ≤ signedBy t r) :
    signedBy s ((n : ℚ) / 10 ^ 6) ≤ signedBy t ((k : ℚ) / 10 ^ 6) := by
  have hn : (0 : ℚ) ≤ (n : ℚ) / 10 ^ 6 := by positivity
  have hk : (0 : ℚ) ≤ (k : ℚ) / 10 ^ 6 := by positivity
  have hstep : ∀ i j : Nat, i ≤ j → (i : ℚ) / 10 ^ 6 ≤ (j : ℚ) / 10 ^ 6 := fun i j hij =>
    div_le_div_of_nonneg_right (Nat.cast_le.mpr hij) (by positivity)
  cases s with
  | false =>
    cases t with
    | false => exact hstep n k (h.le hf h' hq hle)
    | true =>
      -- A number that is not negative is at most one that is not positive, so both are zero.
      rw [signedBy_false, signedBy_true] at hle
      obtain rfl : q = 0 := by linarith
      obtain rfl : r = 0 := by linarith
      rw [h.eq_zero hf, h'.eq_zero hf]
      simp
  | true =>
    cases t with
    | false =>
      rw [signedBy_true, signedBy_false]
      linarith
    | true => exact neg_le_neg (hstep k n (h'.le hf h hr (neg_le_neg_iff.mp hle)))

end Printing

/-- A decimal with its sign. -/
structure Token where
  sign : Sign
  decimal : Decimal

namespace Token

def text (t : Token) : List Char := t.sign.text ++ t.decimal.text

/-- The number that a token spells. -/
def number (t : Token) : ℚ := signedBy t.sign.isMinus t.decimal.number

/-- The double that is read for a token is the nearest one to its number. -/
def IsRounded (t : Token) : Prop := ∀ x, readChannel t.text = .ok x → x.IsNearest t.sign.isMinus t.decimal.number

/-- All tokens are rounded but those of which not enough is read. -/
theorem isRounded_of_isExact {t : Token} (h : t.decimal.IsExact) : t.IsRounded := by
  intro x hx
  have htext : Literal.ofChars? t.text = some (Spelling.decimal t.sign t.decimal).literal :=
    Spelling.ofChars?_text (.decimal t.sign t.decimal)
  simp only [readChannel, htext] at hx
  split at hx
  next =>
    have hdenotes : (Spelling.decimal t.sign t.decimal).Denotes x :=
      Spelling.denotes_iff.mpr (Except.ok.inj hx).symm
    exact hdenotes.1 h
  next => cases hx

theorem decimal_number_nonneg (t : Token) : 0 ≤ t.decimal.number :=
  Binary64.decimal_nonneg _ _

theorem decimal_number_eq {t : Token} (h : 0 ≤ t.number) : t.decimal.number = t.number := by
  have hnonneg := t.decimal_number_nonneg
  unfold number at h ⊢
  cases hs : t.sign.isMinus with
  | false => rfl
  | true =>
    rw [hs, signedBy_true] at h
    rw [signedBy_true]
    linarith

end Token

/-- A double that is a channel of a record, in the place of a token of the line. -/
def IsChannelFor (fullScale : Binary64) (t : Token) (x : Binary64) : Prop :=
  ∃ (line : List Char) (color : Color) (i : Nat), readRecord fullScale line = .ok color ∧
    (words line)[i]? = some t.text ∧ color.channels[i]? = some x

/-- A channel is the quotient of what is read for its token by full scale. -/
theorem IsChannelFor.exists_readChannel {fullScale x : Binary64} {t : Token} (h : IsChannelFor fullScale t x) :
    ∃ z, readChannel t.text = .ok z ∧ x = z / fullScale := by
  obtain ⟨line, color, i, hread, hword, hchannel⟩ := h
  have hreads := readRecord_eq_iff.mp hread
  generalize words line = ws at hreads hword
  cases hreads with
  | @color r g b red green blue hr hg hb =>
    rcases i with _ | _ | _ | i
    · obtain rfl := Option.some.inj hword
      exact ⟨red, hr.readChannel_eq, (Option.some.inj hchannel).symm⟩
    · obtain rfl := Option.some.inj hword
      exact ⟨green, hg.readChannel_eq, (Option.some.inj hchannel).symm⟩
    · obtain rfl := Option.some.inj hword
      exact ⟨blue, hb.readChannel_eq, (Option.some.inj hchannel).symm⟩
    · cases hword

section Channels

variable {f : Magnitude} {t : Token} {x : Binary64}

theorem IsChannelFor.exists_magnitude (h : IsChannelFor (.finite false f) t x) (hround : t.IsRounded) :
    ∃ a, (Binary64.finite t.sign.isMinus a).IsNearest t.sign.isMinus t.decimal.number ∧
      x = .finite t.sign.isMinus a / .finite false f := by
  obtain ⟨z, hz, rfl⟩ := h.exists_readChannel
  have hnear := hround z hz
  obtain ⟨a, rfl⟩ := Binary64.exists_of_isNearest hnear (isFinite_of_readChannel hz)
  exact ⟨a, hnear, rfl⟩

/-- A finite channel is shown with the millionths that are printed for its token. -/
theorem IsChannelFor.exists_printedFor (hf : 0 < f.units) (h : IsChannelFor (.finite false f) t x)
    (hround : t.IsRounded) (hx : x.isFinite) :
    ∃ n, PrintedFor f t.sign.isMinus t.decimal.number n ∧ x.toFixed = minusIf t.sign.isMinus (sixPlaces n) := by
  obtain ⟨a, ha, rfl⟩ := h.exists_magnitude hround
  have hquotient := Binary64.div_isNearest hf t.sign.isMinus a
  obtain ⟨m, hm⟩ := Binary64.exists_of_isNearest hquotient hx
  rw [hm] at hquotient ⊢
  exact ⟨m.millionths, ⟨a, m, ha, hquotient, rfl⟩, rfl⟩

/-- Channels up to full scale are finite. -/
theorem IsChannelFor.isFinite_of_le (hf : 0 < f.units) (h : IsChannelFor (.finite false f) t x)
    (hround : t.IsRounded) (hle : t.decimal.number ≤ f.value) : x.isFinite := by
  obtain ⟨a, ha, rfl⟩ := h.exists_magnitude hround
  have hunits := ha.units_le (Binary64.isNearest_value false f) t.decimal_number_nonneg hle
  obtain ⟨m, hm, -⟩ := Binary64.abs_ofQuotient_sub_le (t.sign.isMinus != false) hf hunits
  rw [Binary64.div_finite _ _ _ _ (Nat.ne_of_gt hf), hm]
  rfl

/-- Between zero and full scale a channel is shown between 0 and 1. -/
theorem IsChannelFor.shownNumber?_bounds (hf : 0 < f.units) (h : IsChannelFor (.finite false f) t x)
    (hround : t.IsRounded) (hx : x.isFinite) (hzero : 0 ≤ t.number) (hmost : t.number ≤ f.value) {p : ℚ}
    (hp : shownNumber? x.toFixed = some p) : 0 ≤ p ∧ p ≤ 1 := by
  have hnonneg := t.decimal_number_nonneg
  have hone : ((1000000 : Nat) : ℚ) / 10 ^ 6 = 1 := by norm_num
  obtain ⟨n, hn, htext⟩ := h.exists_printedFor hf hround hx
  have hlow := (printedFor_zero f).signedBy_le hf hn (le_refl 0) hnonneg hzero
  have hhigh := hn.signedBy_le hf (printedFor_fullScale hf) hnonneg (Magnitude.value_pos hf).le hmost
  rw [htext, shownNumber?_sixPlaces, Option.some.injEq] at hp
  rw [hp, Nat.cast_zero, zero_div] at hlow
  rw [hp, hone] at hhigh
  exact ⟨hlow, hhigh⟩

theorem IsChannelFor.toFixed_of_fullScale (hf : 0 < f.units) (h : IsChannelFor (.finite false f) t x)
    (hround : t.IsRounded) (hmost : t.number = f.value) : x.toFixed = "1.000000".toList := by
  have hpositive := Magnitude.value_pos hf
  have hd := (Token.decimal_number_eq (hmost ▸ hpositive.le)).trans hmost
  obtain ⟨n, hn, htext⟩ := h.exists_printedFor hf hround (h.isFinite_of_le hf hround hd.le)
  have hsign : t.sign.isMinus = false := by
    by_contra hminus
    rw [Bool.not_eq_false] at hminus
    rw [Token.number, hminus, signedBy_true] at hmost
    linarith
  rw [hd] at hn
  rw [htext, hn.eq_million hf, hsign]
  decide

theorem IsChannelFor.toFixed_of_zero (hf : 0 < f.units) (h : IsChannelFor (.finite false f) t x)
    (hround : t.IsRounded) (hzero : t.number = 0) : x.toFixed = minusIf t.sign.isMinus "0.000000".toList := by
  have hd := (Token.decimal_number_eq hzero.symm.le).trans hzero
  obtain ⟨n, hn, htext⟩ := h.exists_printedFor hf hround
    (h.isFinite_of_le hf hround (hd.trans_le (Magnitude.value_pos hf).le))
  rw [hd] at hn
  rw [htext, hn.eq_zero hf]
  rfl

/-- The numbers shown for two tokens are in the order of the tokens. -/
theorem exists_shownNumber?_le {u : Token} {y : Binary64} (hf : 0 < f.units) (ht : IsChannelFor (.finite false f) t x)
    (hu : IsChannelFor (.finite false f) u y) (hroundt : t.IsRounded) (hroundu : u.IsRounded)
    (hle : t.number ≤ u.number) (hx : x.isFinite) (hy : y.isFinite) :
    ∃ p q, shownNumber? x.toFixed = some p ∧ shownNumber? y.toFixed = some q ∧ p ≤ q := by
  obtain ⟨n, hn, htext⟩ := ht.exists_printedFor hf hroundt hx
  obtain ⟨k, hk, htext'⟩ := hu.exists_printedFor hf hroundu hy
  rw [htext, htext', shownNumber?_sixPlaces, shownNumber?_sixPlaces]
  exact ⟨_, _, rfl, rfl, hn.signedBy_le hf hk t.decimal_number_nonneg u.decimal_number_nonneg hle⟩

end Channels

/-- Decimals are printed in their order whenever their quotients by full scale are finite. Between zero and full scale
they are finite, and are printed between 0 and 1; full scale is printed as 1 and zero as zero. -/
theorem printed_decimals_keep_order (fullScale : Binary64) (a b : Token) (x y : Binary64)
    (hscale : fullScale.isPositiveFinite) (ha : IsChannelFor fullScale a x) (hb : IsChannelFor fullScale b y)
    (hrounda : a.IsRounded) (hroundb : b.IsRounded) (hle : a.number ≤ b.number) :
    (x.isFinite → y.isFinite →
      ∃ p q, shownNumber? x.toFixed = some p ∧ shownNumber? y.toFixed = some q ∧ p ≤ q) ∧
    ∃ most, fullScale.number? = some most ∧
      (0 ≤ a.number → b.number ≤ most → x.isFinite ∧ y.isFinite ∧
        ∃ p q, shownNumber? x.toFixed = some p ∧ shownNumber? y.toFixed = some q ∧ 0 ≤ p ∧ p ≤ q ∧ q ≤ 1) ∧
      (a.number = most → x.toFixed = "1.000000".toList) ∧
      (a.number = 0 → x.toFixed = minusIf a.sign.isMinus "0.000000".toList) := by
  obtain ⟨f, rfl, hf⟩ := Binary64.exists_of_isPositiveFinite hscale
  have horder := exists_shownNumber?_le hf ha hb hrounda hroundb hle
  refine ⟨horder, f.value, rfl, ?_, ha.toFixed_of_fullScale hf hrounda, ha.toFixed_of_zero hf hrounda⟩
  intro hzero hmost
  have hzerob : 0 ≤ b.number := le_trans hzero hle
  have hmosta : a.number ≤ f.value := le_trans hle hmost
  have hx := ha.isFinite_of_le hf hrounda ((Token.decimal_number_eq hzero).trans_le hmosta)
  have hy := hb.isFinite_of_le hf hroundb ((Token.decimal_number_eq hzerob).trans_le hmost)
  obtain ⟨p, q, hp, hq, hpq⟩ := horder hx hy
  have hlow := (ha.shownNumber?_bounds hf hrounda hx hzero hmosta hp).1
  have hhigh := (hb.shownNumber?_bounds hf hroundb hy hzerob hmost hq).2
  exact ⟨hx, hy, p, q, hp, hq, hlow, hpq, hhigh⟩

/-- Half a step and full scale in one record. -/
theorem printed_decimals_keep_order_of_half :
    let fullScale : Binary64 := .ofNat 4095
    let half : Token := ⟨.none, ⟨"0".toList, some "5".toList, none, fun _ => List.all_eq_true.mp (by decide) _,
      fun _ => List.all_eq_true.mp (by decide) _, by decide⟩⟩
    let full : Token := ⟨.plus, ⟨"4095".toList, none, none, fun _ => List.all_eq_true.mp (by decide) _, nofun,
      by decide⟩⟩
    let x : Binary64 := .ofDecimal false 5 (-1) / fullScale
    let y : Binary64 := .ofNat 4095 / fullScale
    IsChannelFor fullScale half x ∧ IsChannelFor fullScale full y ∧ half.number ≤ full.number ∧
    x.isFinite ∧ y.isFinite ∧
    ∃ p q, shownNumber? x.toFixed = some p ∧ shownNumber? y.toFixed = some q ∧ p ≤ q := by
  intro fullScale half full x y
  have hread : readRecord fullScale "0.5 +4095 0".toList = .ok ⟨x, y, .zero false⟩ := by decide +kernel
  have hhalf : IsChannelFor fullScale half x := ⟨_, _, 0, hread, by decide, rfl⟩
  have hfull : IsChannelFor fullScale full y := ⟨_, _, 1, hread, by decide, rfl⟩
  have hle : half.number ≤ full.number := by
    have h5 : numberOf half.decimal.digits = 5 := by decide
    have h4095 : numberOf full.decimal.digits = 4095 := by decide
    have hplace : half.decimal.place Exponent.number = -1 := by decide
    have hwhole : full.decimal.place Exponent.number = 0 := by decide
    change (numberOf half.decimal.digits : ℚ) * 10 ^ _ ≤ (numberOf full.decimal.digits : ℚ) * 10 ^ _
    rw [h5, h4095, hplace, hwhole]
    norm_num
  have hx : x.isFinite := by decide +kernel
  have hy : y.isFinite := by decide +kernel
  obtain ⟨horder, -⟩ := printed_decimals_keep_order fullScale half full x y (by decide +kernel) hhalf hfull
    (Token.isRounded_of_isExact nofun) (Token.isRounded_of_isExact nofun) hle
  exact ⟨hhalf, hfull, hle, hx, hy, horder hx hy⟩

end ColorCube
