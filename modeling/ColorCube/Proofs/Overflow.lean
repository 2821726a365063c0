import ColorCube.Proofs.Quotients
import ColorCube.Proofs.RecordText
import ColorCube.Proofs.Runs

/-!
# Overflow

The numbers that a record spells are finite, but their quotients by a full scale below 1 can be too large for
a finite double, and such a channel is shown as an infinity. A quotient fits below 2^1024 - 2^970, so a full
scale of at least 1 makes all of them fit.
-/

namespace ColorCube

namespace Binary64

/-- The exact quotient of two finite numbers lies below 2^1024 - 2^970. -/
def QuotientFits : Binary64 → Binary64 → Prop
  | .finite _ a, .finite _ b => a.units < (2 ^ 1024 - 2 ^ 970) * b.units
  | _, _ => False

instance : (x y : Binary64) → Decidable (x.QuotientFits y)
  | .finite _ a, .finite _ b =>
    inferInstanceAs (Decidable (a.units < (2 ^ 1024 - 2 ^ 970) * b.units))
  | .nan, _ | .infinite _, _ | .finite .., .nan | .finite .., .infinite _ =>
    inferInstanceAs (Decidable False)

theorem exists_of_isPositiveFinite {x : Binary64} (h : x.isPositiveFinite) :
    ∃ m, x = .finite false m ∧ 0 < m.units := by
  cases x with
  | nan => exact absurd h Bool.false_ne_true
  | infinite negative => exact absurd h Bool.false_ne_true
  | finite negative m =>
    cases negative with
    | true => exact absurd h Bool.false_ne_true
    | false =>
      have hm : m.units ≠ 0 := by simpa [isPositiveFinite] using h
      exact ⟨m, rfl, Nat.pos_of_ne_zero hm⟩

theorem exists_of_isFinite {x : Binary64} (h : x.isFinite) : ∃ negative m, x = .finite negative m := by
  cases x with
  | nan => exact absurd h Bool.false_ne_true
  | infinite negative => exact absurd h Bool.false_ne_true
  | finite negative m => exact ⟨negative, m, rfl⟩

/-- A finite number over a positive one is finite just when the quotient fits. -/
theorem isFinite_div_iff {x y : Binary64} (hx : x.isFinite) (hy : y.isPositiveFinite) :
    (x / y).isFinite ↔ x.QuotientFits y := by
  obtain ⟨negative, a, rfl⟩ := exists_of_isFinite hx
  obtain ⟨b, rfl, hb⟩ := exists_of_isPositiveFinite hy
  rw [div_finite _ _ _ _ (Nat.ne_of_gt hb), isFinite_ofQuotient_iff _ hb]
  rfl

/-- A finite number over a positive one keeps its sign when it becomes infinite. -/
theorem div_eq_infinite {negative : Bool} {a : Magnitude} {y : Binary64} (hy : y.isPositiveFinite)
    (h : ¬ QuotientFits (.finite negative a) y) : .finite negative a / y = .infinite negative := by
  rw [← isFinite_div_iff rfl hy] at h
  obtain ⟨b, rfl, hb⟩ := exists_of_isPositiveFinite hy
  rw [div_finite _ _ _ _ (Nat.ne_of_gt hb), isFinite_ofQuotient] at h
  rw [div_finite _ _ _ _ (Nat.ne_of_gt hb), ofQuotient_of_le _ (Nat.not_lt.mp h), Bool.bne_false]

/-- A finite number over a positive one is shown with six places when the quotient fits, and as an infinity
when it does not. -/
theorem toFixed_div {x y : Binary64} (hx : x.isFinite) (hy : y.isPositiveFinite) :
    x.QuotientFits y ∧ IsSixPlaces (x / y).toFixed ∨
      ¬ x.QuotientFits y ∧ ∃ negative, (x / y).toFixed = minusIf negative "inf".toList := by
  by_cases h : x.QuotientFits y
  · exact Or.inl ⟨h, (isSixPlaces_toFixed_iff _).mpr ((isFinite_div_iff hx hy).mpr h)⟩
  · obtain ⟨negative, a, rfl⟩ := exists_of_isFinite hx
    rw [div_eq_infinite hy h]
    exact Or.inr ⟨h, negative, rfl⟩

/-- Every finite number fits over 1 and over what is larger. -/
theorem quotientFits_of_one_le {x : Binary64} {b : Magnitude} (negative : Bool) (hx : x.isFinite)
    (hb : unitsPerOne ≤ b.units) : x.QuotientFits (.finite negative b) := by
  obtain ⟨s, a, rfl⟩ := exists_of_isFinite hx
  have hround := roundUnits_mul_self unitsPerOne_pos a.spacing_dvd
  have hfinite : (ofQuotient s a.units unitsPerOne).isFinite := by
    rw [isFinite_ofQuotient, hround]
    exact a.lt_bound
  rw [isFinite_ofQuotient_iff s unitsPerOne_pos] at hfinite
  exact Nat.lt_of_lt_of_le hfinite (Nat.mul_le_mul_left _ hb)

end Binary64

namespace Color

def channels (c : Color) : List Binary64 := [c.red, c.green, c.blue]

theorem isFinite_iff_channels (c : Color) : c.IsFinite ↔ ∀ x ∈ c.channels, x.isFinite := by
  simp [IsFinite, channels]

/-- The color whose channels are those of another one over full scale. -/
def scaledBy (c : Color) (fullScale : Binary64) : Color :=
  ⟨c.red / fullScale, c.green / fullScale, c.blue / fullScale⟩

/-- The quotients of all channels by full scale fit. -/
def Fits (c : Color) (fullScale : Binary64) : Prop :=
  c.red.QuotientFits fullScale ∧ c.green.QuotientFits fullScale ∧ c.blue.QuotientFits fullScale

instance (c : Color) (fullScale : Binary64) : Decidable (c.Fits fullScale) :=
  inferInstanceAs (Decidable (_ ∧ _ ∧ _))

theorem isFinite_scaledBy_iff {c : Color} {fullScale : Binary64} (hc : c.IsFinite)
    (hf : fullScale.isPositiveFinite) : (c.scaledBy fullScale).IsFinite ↔ c.Fits fullScale := by
  obtain ⟨hr, hg, hb⟩ := hc
  exact and_congr (Binary64.isFinite_div_iff hr hf)
    (and_congr (Binary64.isFinite_div_iff hg hf) (Binary64.isFinite_div_iff hb hf))

end Color

/-- The numbers that a record spells, not yet divided by full scale. -/
def spelledColor? (line : List Char) : Option Color :=
  match words line with
  | [r, g, b] =>
    match readChannel r, readChannel g, readChannel b with
    | .ok red, .ok green, .ok blue => some ⟨red, green, blue⟩
    | _, _, _ => none
  | _ => none

/-- The numbers that the records among some lines spell. -/
def spelledColors (lines : List (List UInt8)) : List Color :=
  lines.filterMap fun line => spelledColor? (decodeUtf8 line)

theorem isFinite_of_readChannel {word : List Char} {x : Binary64} (h : readChannel word = .ok x) :
    x.isFinite := by
  unfold readChannel at h
  split at h
  · exact absurd h nofun
  · split at h
    · cases h
      assumption
    · exact absurd h nofun

theorem isFinite_of_spelledColor? {line : List Char} {c : Color} (h : spelledColor? line = some c) :
    c.IsFinite := by
  unfold spelledColor? at h
  split at h
  · split at h
    · rename_i hr hg hb
      cases h
      exact ⟨isFinite_of_readChannel hr, isFinite_of_readChannel hg, isFinite_of_readChannel hb⟩
    · exact absurd h nofun
  · exact absurd h nofun

theorem toOption_readRecord (fullScale : Binary64) (line : List Char) :
    (readRecord fullScale line).toOption = (spelledColor? line).map (·.scaledBy fullScale) := by
  unfold readRecord spelledColor?
  rcases words line with _ | ⟨r, _ | ⟨g, _ | ⟨b, _ | ⟨word, rest⟩⟩⟩⟩
  · rfl
  · rfl
  · rfl
  · dsimp only
    cases readChannel r <;> cases readChannel g <;> cases readChannel b <;> rfl
  · rfl

theorem acceptedColors_eq_map (fullScale : Binary64) (lines : List (List UInt8)) :
    acceptedColors fullScale lines = (spelledColors lines).map (·.scaledBy fullScale) := by
  rw [acceptedColors, spelledColors, List.map_filterMap]
  congr 1
  funext line
  exact toOption_readRecord fullScale (decodeUtf8 line)

theorem isFinite_of_mem_spelledColors {lines : List (List UInt8)} {c : Color}
    (h : c ∈ spelledColors lines) : c.IsFinite := by
  obtain ⟨line, hl, hc⟩ := List.mem_filterMap.mp h
  exact isFinite_of_spelledColor? hc

/-- The lines of a grid of quotients are all decimal records just when the quotients fit. -/
theorem forall_isDecimalRecord_iff {order : Traversal} {side : Nat} {fullScale : Binary64}
    {spelled : List Color} (hf : fullScale.isPositiveFinite) (hspelled : ∀ c ∈ spelled, c.IsFinite)
    (h : side ^ 3 ≤ (spelled.map (·.scaledBy fullScale)).length) :
    (∀ line ∈ gridLines order side (spelled.map (·.scaledBy fullScale)), IsDecimalRecord line) ↔
      ∀ c ∈ spelled.take (side ^ 3), c.Fits fullScale := by
  have hrecord : ∀ c ∈ spelled, IsDecimalRecord (c.scaledBy fullScale).render ↔ c.Fits fullScale := by
    intro c hc
    rw [Color.isDecimalRecord_render_iff, Color.isFinite_scaledBy_iff (hspelled c hc) hf]
  constructor
  · intro hall c hc
    rw [← hrecord c (List.mem_of_mem_take hc)]
    apply hall
    rw [mem_gridLines_iff h, ← List.map_take]
    exact ⟨_, List.mem_map_of_mem hc, rfl⟩
  · intro hfits line hline
    rw [mem_gridLines_iff h, ← List.map_take] at hline
    obtain ⟨_, hmem, rfl⟩ := hline
    obtain ⟨c, hc, rfl⟩ := List.mem_map.mp hmem
    exact (hrecord c (List.mem_of_mem_take hc)).mpr (hfits c hc)

namespace Converter

/-- What a successful conversion of bytes has written, line by line. -/
theorem lines_of_convert_eq_ok {settings : Settings} {bytes : List UInt8} {sink : Sink}
    {summary : Summary}
    (h : ((standard settings).convert { bytes := bytes } sink).result = .ok summary) :
    let colors := acceptedColors settings.fullScale (lines newlineByte bytes)
    settings.side ^ 3 ≤ colors.length ∧ ∃ output,
      ((standard settings).convert { bytes := bytes } sink).state.written = sink.written ++ output ∧
      (lines newlineByte output).map decodeUtf8 = gridLines settings.order settings.side colors := by
  intro colors
  obtain ⟨hc, hw⟩ := written_of_convert_eq_ok settings h
  have hcolors : Source.colors settings.fullScale { bytes := bytes } = colors := rfl
  rw [firstCause_eq_none_iff] at hc
  have hshort := hc (cause (colors.length < settings.side ^ 3)
    (.insufficientData (settings.side ^ 3) colors.length)) (by simp [listingCauses, cubeCauses, hcolors])
  rw [cause_eq_none_iff] at hshort
  refine ⟨Nat.not_lt.mp hshort, textOf settings { bytes := bytes }, hw, ?_⟩
  exact lines_textOf_gridLines settings.order settings.side colors

/-- The lines that a successful conversion has written are all decimal records just when the quotients fit for
the records that are written. -/
theorem shows_decimals_iff {settings : Settings} {bytes : List UInt8} {sink : Sink} {summary : Summary}
    (hf : settings.fullScale.isPositiveFinite)
    (h : ((standard settings).convert { bytes := bytes } sink).result = .ok summary) :
    ∃ output,
      ((standard settings).convert { bytes := bytes } sink).state.written = sink.written ++ output ∧
      (lines newlineByte output).length = settings.side ^ 3 ∧
      ((∀ line ∈ lines newlineByte output, IsDecimalRecord (decodeUtf8 line)) ↔
        ∀ c ∈ (spelledColors (lines newlineByte bytes)).take (settings.side ^ 3),
          c.Fits settings.fullScale) := by
  obtain ⟨henough, output, hw, hlines⟩ := lines_of_convert_eq_ok h
  refine ⟨output, hw, ?_, ?_⟩
  · have hlength := congrArg List.length hlines
    rwa [List.length_map, length_gridLines henough] at hlength
  · rw [acceptedColors_eq_map] at henough hlines
    rw [← forall_isDecimalRecord_iff hf (fun _ => isFinite_of_mem_spelledColors) henough, ← hlines,
      List.forall_mem_map]

/-- With a full scale of at least 1 a successful conversion has written decimal records only. -/
theorem isDecimalRecord_of_one_le {settings : Settings} {bytes : List UInt8} {sink : Sink}
    {summary : Summary} {full : Magnitude} (hfull : settings.fullScale = .finite false full)
    (hone : unitsPerOne ≤ full.units)
    (h : ((standard settings).convert { bytes := bytes } sink).result = .ok summary) :
    ∃ output,
      ((standard settings).convert { bytes := bytes } sink).state.written = sink.written ++ output ∧
      ∀ line ∈ lines newlineByte output, IsDecimalRecord (decodeUtf8 line) := by
  have hne : full.units ≠ 0 := Nat.ne_of_gt (Nat.lt_of_lt_of_le unitsPerOne_pos hone)
  have hf : settings.fullScale.isPositiveFinite := by
    rw [hfull]
    simp [Binary64.isPositiveFinite, hne]
  obtain ⟨output, hw, -, hiff⟩ := shows_decimals_iff hf h
  refine ⟨output, hw, hiff.mpr ?_⟩
  intro c hc
  obtain ⟨hr, hg, hb⟩ := isFinite_of_mem_spelledColors (List.mem_of_mem_take hc)
  rw [hfull]
  exact ⟨Binary64.quotientFits_of_one_le false hr hone, Binary64.quotientFits_of_one_le false hg hone,
    Binary64.quotientFits_of_one_le false hb hone⟩

/-- The numbers that are read are finite, and the channels of their colors just when the quotients by full
scale fit; one that does not is shown as an infinity. So all lines of a successful conversion show decimals
with six places just when the quotients fit for the records that are written. -/
theorem convert_shows_decimals_iff (settings : Settings) (bytes : List UInt8) (sink : Sink)
    (hcheck : settings.check = .ok ()) :
    let fullScale := settings.fullScale
    let spelled := spelledColors (lines newlineByte bytes)
    let run := (standard settings).convert { bytes := bytes } sink
    acceptedColors fullScale (lines newlineByte bytes) = spelled.map (·.scaledBy fullScale) ∧
    (∀ c ∈ spelled, c.IsFinite ∧ ((c.scaledBy fullScale).IsFinite ↔ c.Fits fullScale) ∧
      ∀ x ∈ c.channels, ¬ x.QuotientFits fullScale →
        ∃ negative, (x / fullScale).toFixed = minusIf negative "inf".toList) ∧
    ∀ summary, run.result = .ok summary → ∃ output,
      run.state.written = sink.written ++ output ∧
      (lines newlineByte output).length = settings.side ^ 3 ∧
      ((∀ line ∈ lines newlineByte output, IsDecimalRecord (decodeUtf8 line)) ↔
        ∀ c ∈ spelled.take (settings.side ^ 3), c.Fits fullScale) := by
  intro fullScale spelled run
  obtain ⟨-, hf⟩ := settings.check_eq_ok_iff.mp hcheck
  refine ⟨acceptedColors_eq_map _ _, ?_, ?_⟩
  · intro c hc
    have hfinite := isFinite_of_mem_spelledColors hc
    refine ⟨hfinite, Color.isFinite_scaledBy_iff hfinite hf, ?_⟩
    intro x hx hfits
    rcases Binary64.toFixed_div (c.isFinite_iff_channels.mp hfinite x hx) hf with ⟨h, -⟩ | ⟨-, h⟩
    · exact absurd h hfits
    · exact h
  · intro summary hok
    exact shows_decimals_iff hf hok

/-- The number 10^308 is finite, but over a full scale of one half it is shown as an infinity. -/
theorem convert_shows_infinity :
    let settings : Settings := ⟨.ofQuotient false 1 2, 1, .rgb, .fail⟩
    let run := (standard settings).convert { bytes := encodeUtf8 "1e308 0 0\n".toList } {}
    settings.check = .ok () ∧ run.result = .ok ⟨1, 0, 1⟩ ∧
    run.state.written =
      Sink.textOf ["\t\x7b .red = inf, .green = 0.000000, .blue = 0.000000 \x7d,".toList] := by
  intro settings run
  refine ⟨?_, ?_, ?_⟩
  · rw [Settings.check_eq_ok_iff]
    decide +kernel
  · decide +kernel
  · decide +kernel

/-- The same input as a case of the condition: its quotient does not fit, so not all lines are decimal. -/
theorem convert_shows_decimals_iff_of_half :
    let settings : Settings := ⟨.ofQuotient false 1 2, 1, .rgb, .fail⟩
    let run := (standard settings).convert { bytes := encodeUtf8 "1e308 0 0\n".toList } {}
    settings.check = .ok () ∧ run.result = .ok ⟨1, 0, 1⟩ ∧ ∃ output, run.state.written = output ∧
      (lines newlineByte output).length = 1 ∧
      ¬ ∀ line ∈ lines newlineByte output, IsDecimalRecord (decodeUtf8 line) := by
  intro settings run
  have hcheck : settings.check = .ok () := by
    rw [Settings.check_eq_ok_iff]
    decide +kernel
  have hrun : run.result = .ok ⟨1, 0, 1⟩ := by decide +kernel
  have hfits : ¬ ∀ c ∈ (spelledColors (lines newlineByte (encodeUtf8 "1e308 0 0\n".toList))).take 1,
      c.Fits settings.fullScale := by decide +kernel
  obtain ⟨-, -, hok⟩ :=
    convert_shows_decimals_iff settings (encodeUtf8 "1e308 0 0\n".toList) {} hcheck
  obtain ⟨output, hw, hl, hiff⟩ := hok _ hrun
  exact ⟨hcheck, hrun, output, hw, hl, fun h => hfits (hiff.mp h)⟩

end Converter

end ColorCube
