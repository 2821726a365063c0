import ColorCube.Proofs.FixedDecimals
import ColorCube.Proofs.Lossless

/-!
# What a record shows

A finite double is shown by its sign and the decimal with six places that is nearest to its magnitude, and a record
shows three doubles on one line. The texts can be cut out of the line again, and the decimals are off by half a
millionth at most. This is so for every pattern of 64 bits, since each of them is a double with the sign, the exponent
and the fraction that its fields hold.
-/

namespace ColorCube

theorem Magnitude.ext_value {a b : Magnitude} (h : a.value = b.value) : a = b := by
  have hU := unitsPerOne_cast_pos
  rw [value, value, div_left_inj' (ne_of_gt hU)] at h
  exact ext (Nat.cast_injective h)

theorem Magnitude.isNearestWhole_millionths_iff {m : Magnitude} {k : Nat} :
    IsNearestWhole k (m.value * 10 ^ 6) ↔ k = m.millionths := by
  have hvalue : m.value * 10 ^ 6 = (m.units * 10 ^ 6 : Nat) / (unitsPerOne : ℚ) := by
    rw [value]
    push_cast
    ring
  rw [hvalue, isNearestWhole_div_iff unitsPerOne_pos, millionths]

theorem abs_signedBy_sub (negative : Bool) (p q : ℚ) : |signedBy negative p - signedBy negative q| = |p - q| := by
  cases negative with
  | false => rfl
  | true => rw [signedBy_true, signedBy_true, neg_sub_neg, abs_sub_comm]

namespace Binary64

/-- The number that a finite double stands for. -/
def number? : Binary64 → Option ℚ
  | .finite negative m => some (signedBy negative m.value)
  | _ => none

/-- How a double is shown: the minus is the sign bit, and the decimal of a finite double stands for the nearest whole
number of millionths, which is the even one where two are as near. -/
inductive ShownAs : Binary64 → List Char → Prop where
  | nan : ShownAs .nan "NaN".toList
  | infinite (negative : Bool) : ShownAs (.infinite negative) (minusIf negative "inf".toList)
  | finite {negative : Bool} {m : Magnitude} {d : FixedDecimal} (h : IsNearestWhole d.millionths (m.value * 10 ^ 6)) :
      ShownAs (.finite negative m) (minusIf negative d.text)

theorem shownAs_iff {x : Binary64} {s : List Char} : x.ShownAs s ↔ s = x.toFixed := by
  constructor
  · intro h
    cases h with
    | nan => rfl
    | infinite negative => rfl
    | @finite negative m d h => rw [d.text_eq, Magnitude.isNearestWhole_millionths_iff.mp h, toFixed]
  · rintro rfl
    cases x with
    | nan => exact .nan
    | infinite negative => exact .infinite negative
    | finite negative m =>
      obtain ⟨d, hd⟩ := FixedDecimal.exists_millionths_eq m.millionths
      have hshown : ShownAs (.finite negative m) (minusIf negative d.text) :=
        .finite (Magnitude.isNearestWhole_millionths_iff.mpr hd)
      rwa [d.text_eq, hd] at hshown

end Binary64

/-- The decimal that is shown for a number is off by half a millionth at most. -/
theorem Binary64.exists_shownNumber?_near {x : Binary64} {q : ℚ} (h : x.number? = some q) :
    ∃ p, shownNumber? x.toFixed = some p ∧ |p - q| ≤ 5 / 10 ^ 7 := by
  cases x with
  | nan => cases h
  | infinite negative => cases h
  | finite negative m =>
    obtain rfl := Option.some.inj h
    refine ⟨_, shownNumber?_sixPlaces negative m.millionths, ?_⟩
    have hnear := m.abs_millionths_sub_le
    rw [abs_signedBy_sub]
    linarith

/-- The line that shows a color. -/
def Color.IsShownAs (c : Color) (line : List Char) : Prop :=
  ∃ red green blue, c.red.ShownAs red ∧ c.green.ShownAs green ∧ c.blue.ShownAs blue ∧
    line = recordText red green blue

theorem Color.isShownAs_iff {c : Color} {line : List Char} : c.IsShownAs line ↔ line = c.render := by
  constructor
  · rintro ⟨red, green, blue, hr, hg, hb, rfl⟩
    rw [c.render_eq_recordText, Binary64.shownAs_iff.mp hr, Binary64.shownAs_iff.mp hg, Binary64.shownAs_iff.mp hb]
  · rintro rfl
    exact ⟨_, _, _, Binary64.shownAs_iff.mpr rfl, Binary64.shownAs_iff.mpr rfl, Binary64.shownAs_iff.mpr rfl,
      c.render_eq_recordText⟩

section Fields

variable {bits : UInt64}

/-- The highest bit. -/
def signBit (bits : UInt64) : Bool := bits.toNat / 2 ^ 63 = 1

/-- The next eleven bits. -/
def exponentField (bits : UInt64) : Nat := bits.toNat / 2 ^ 52 % 2 ^ 11

/-- The lowest 52 bits. -/
def fractionField (bits : UInt64) : Nat := bits.toNat % 2 ^ 52

/-- The double that a bit pattern stands for. With the least exponent it is a multiple of 2^-1074, and with the
greatest it is not finite. -/
inductive Encodes (bits : UInt64) : Binary64 → Prop where
  | nan (he : exponentField bits = 2047) (hf : fractionField bits ≠ 0) : Encodes bits .nan
  | infinite (he : exponentField bits = 2047) (hf : fractionField bits = 0) :
      Encodes bits (.infinite (signBit bits))
  | subnormal {m : Magnitude} (he : exponentField bits = 0) (hm : m.value = fractionField bits / 2 ^ 1074) :
      Encodes bits (.finite (signBit bits) m)
  | normal {m : Magnitude} (he : exponentField bits ≠ 0) (hlt : exponentField bits < 2047)
      (hm : m.value = (2 ^ 52 + fractionField bits) * (2 : ℚ) ^ ((exponentField bits : Int) - 1075)) :
      Encodes bits (.finite (signBit bits) m)

theorem Encodes.eq {x y : Binary64} (hx : Encodes bits x) (hy : Encodes bits y) : x = y := by
  cases hx with
  | nan he hf =>
    cases hy with
    | nan => rfl
    | _ => omega
  | infinite he hf =>
    cases hy with
    | infinite => rfl
    | _ => omega
  | subnormal he hm =>
    cases hy with
    | subnormal he' hm' => rw [Magnitude.ext_value (hm.trans hm'.symm)]
    | _ => omega
  | normal he hlt hm =>
    cases hy with
    | normal he' hlt' hm' => rw [Magnitude.ext_value (hm.trans hm'.symm)]
    | _ => omega

theorem unitsPerOne_cast : (unitsPerOne : ℚ) = 2 ^ 1074 := by
  unfold unitsPerOne leastPlace
  rw [Nat.cast_pow, Nat.cast_ofNat]

/-- The exponent and the fraction together are the place of a magnitude in ascending order. -/
theorem toNat_mod_eq_fields (bits : UInt64) :
    bits.toNat % 2 ^ 63 = exponentField bits * 2 ^ 52 + fractionField bits := by
  unfold exponentField fractionField
  omega

theorem signBit_eq (bits : UInt64) : signBit bits = decide (2 ^ 63 ≤ bits.toNat) := by
  have hlt := bits.toNat_lt
  rw [signBit, decide_eq_decide]
  omega

theorem Magnitude.exists_ofCode?_subnormal {f : Nat} (hf : f < 2 ^ 52) :
    ∃ m, ofCode? f = some m ∧ m.value = f / 2 ^ 1074 := by
  have hcode : f < 2047 * 2 ^ 52 := by omega
  have hexponent : f / 2 ^ 52 - 1 = 0 := by omega
  refine ⟨_, dif_pos hcode, ?_⟩
  simp only [value, hexponent, Nat.zero_mul, Nat.sub_zero, Nat.pow_zero, Nat.mul_one, unitsPerOne_cast]

theorem Magnitude.exists_ofCode?_normal {e f : Nat} (he : e ≠ 0) (hlt : e < 2047) (hf : f < 2 ^ 52) :
    ∃ m, ofCode? (e * 2 ^ 52 + f) = some m ∧ m.value = (2 ^ 52 + f) * (2 : ℚ) ^ ((e : Int) - 1075) := by
  obtain ⟨k, rfl⟩ := Nat.exists_eq_succ_of_ne_zero he
  have hcode : (k + 1) * 2 ^ 52 + f < 2047 * 2 ^ 52 := by omega
  have hexponent : ((k + 1) * 2 ^ 52 + f) / 2 ^ 52 - 1 = k := by omega
  have hsignificand : (k + 1) * 2 ^ 52 + f - k * 2 ^ 52 = 2 ^ 52 + f := by omega
  have hpow : (2 : ℚ) ^ (((k + 1 : Nat) : Int) - 1075) = 2 ^ k / 2 ^ 1074 := by
    have hsub : ((k + 1 : Nat) : Int) - 1075 = (k : Int) - (1074 : Nat) := by omega
    rw [hsub, zpow_sub₀ (by norm_num), zpow_natCast, zpow_natCast]
  refine ⟨_, dif_pos hcode, ?_⟩
  simp only [value, hexponent, hsignificand, unitsPerOne_cast]
  rw [Nat.succ_eq_add_one, hpow, Nat.cast_mul, Nat.cast_add, Nat.cast_pow, Nat.cast_pow, Nat.cast_ofNat,
    mul_div_assoc]

/-- Every bit pattern stands for the double that it is read as. -/
theorem encodes_ofBits (bits : UInt64) : Encodes bits (.ofBits bits) := by
  have hfields := toNat_mod_eq_fields bits
  have hf : fractionField bits < 2 ^ 52 := Nat.mod_lt _ (by decide)
  have he : exponentField bits < 2048 := Nat.mod_lt _ (by decide)
  unfold Binary64.ofBits
  simp only [hfields, ← signBit_eq]
  rcases Nat.lt_or_ge (exponentField bits) 2047 with hlt | hge
  · rcases Nat.eq_zero_or_pos (exponentField bits) with hzero | hpos
    · obtain ⟨m, hm, hvalue⟩ := Magnitude.exists_ofCode?_subnormal hf
      rw [hzero, Nat.zero_mul, Nat.zero_add, hm]
      exact .subnormal hzero hvalue
    · obtain ⟨m, hm, hvalue⟩ := Magnitude.exists_ofCode?_normal (Nat.ne_of_gt hpos) hlt hf
      rw [hm]
      exact .normal (Nat.ne_of_gt hpos) hlt hvalue
  · have hmax : exponentField bits = 2047 := by omega
    have hnone : Magnitude.ofCode? (exponentField bits * 2 ^ 52 + fractionField bits) = none :=
      dif_neg (by omega)
    rw [hnone]
    dsimp only
    split
    next h => exact .infinite hmax (by omega)
    next h => exact .nan hmax (by omega)

end Fields

/-- A color is shown on one line, which is settled by what its channels are. The three texts are found again in the
line, and they are read as numbers that differ from the channels by half a millionth at most. A channel can be any
bit pattern, and is then the double that the fields of the pattern encode. -/
theorem render_is_exact (c : Color) :
    (∀ line, c.IsShownAs line ↔ line = c.render) ∧ '\n' ∉ c.render ∧
    (∃ red green blue, shownTexts? c.render = some (red, green, blue) ∧
      ∀ channel ∈ [(c.red, red), (c.green, green), (c.blue, blue)],
        channel.1.ShownAs channel.2 ∧
        ∀ q, channel.1.number? = some q → ∃ p, shownNumber? channel.2 = some p ∧ |p - q| ≤ 5 / 10 ^ 7) ∧
    ∀ bits x, Encodes bits x ↔ x = .ofBits bits := by
  refine ⟨fun line => Color.isShownAs_iff, ?_, ⟨_, _, _, c.shownTexts?_render, ?_⟩, ?_⟩
  · intro h
    exact (c.plainText_render _ h).2 rfl
  · intro channel h
    have htext : channel.2 = channel.1.toFixed := by
      simp only [List.mem_cons, List.not_mem_nil, or_false] at h
      rcases h with rfl | rfl | rfl <;> rfl
    rw [htext]
    exact ⟨Binary64.shownAs_iff.mpr rfl, fun q hq => Binary64.exists_shownNumber?_near hq⟩
  · intro bits x
    constructor
    · intro h
      exact h.eq (encodes_ofBits bits)
    · rintro rfl
      exact encodes_ofBits bits

/-- The least subnormal below zero, an odd multiple of 2^-7, and a decimal whose last place carries into the first. -/
theorem render_is_exact_at_edges :
    let c : Color := ⟨.ofBits 0x8000000000000001, .ofBits 0x3F98000000000000, .ofDecimal false 9999996 (-7)⟩
    let line := "\t\x7b .red = -0.000000, .green = 0.023438, .blue = 1.000000 \x7d,".toList
    c.IsShownAs line ∧ '\n' ∉ line ∧ (∃ blue, shownTexts? line = some ("-0.000000".toList, "0.023438".toList, blue)) ∧
    Encodes 0x8000000000000001 c.red ∧ Encodes 0x3F98000000000000 c.green := by
  intro c line
  have hline : line = c.render := by decide +kernel
  have htexts : c.red.toFixed = "-0.000000".toList ∧ c.green.toFixed = "0.023438".toList := by decide +kernel
  obtain ⟨hshown, hnewline, ⟨red, green, blue, hread, hchannels⟩, hencodes⟩ := render_is_exact c
  have hred := Binary64.shownAs_iff.mp (hchannels (c.red, red) List.mem_cons_self).1
  have hgreen := Binary64.shownAs_iff.mp (hchannels (c.green, green) (by simp)).1
  dsimp only at hred hgreen
  rw [← hline] at hnewline hread
  rw [hred, hgreen, htexts.1, htexts.2] at hread
  exact ⟨(hshown line).mpr hline, hnewline, ⟨blue, hread⟩, (hencodes _ _).mpr rfl, (hencodes _ _).mpr rfl⟩

end ColorCube
