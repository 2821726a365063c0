import ColorCube.Proofs.Precision
import ColorCube.Proofs.PrintedWords
import ColorCube.Proofs.Runs

/-!
# Lossless conversions

A grid of whole numbers up to a full scale of at most six digits is found again in the text that it is converted
to: the decimals at the place of an entry, times full scale, lie nearer to its raw values than to any others.
-/

namespace ColorCube

structure RawColor where
  red : Nat
  green : Nat
  blue : Nat
  deriving DecidableEq

namespace RawColor

/-- An entry as a line of three decimals. -/
def line (c : RawColor) : List Char :=
  digits c.red ++ ' ' :: (digits c.green ++ ' ' :: digits c.blue)

def AtMost (most : Nat) (c : RawColor) : Prop := c.red ≤ most ∧ c.green ≤ most ∧ c.blue ≤ most

instance (most : Nat) (c : RawColor) : Decidable (c.AtMost most) :=
  inferInstanceAs (Decidable (_ ∧ _ ∧ _))

def scaledBy (most : Nat) (c : RawColor) : Color :=
  ⟨.ofNat c.red / .ofNat most, .ofNat c.green / .ofNat most, .ofNat c.blue / .ofNat most⟩

end RawColor

/-- The text of some entries, one a line. -/
def rawText (grid : List RawColor) : List UInt8 := Sink.textOf (grid.map RawColor.line)

theorem words_line (c : RawColor) :
    words c.line = [digits c.red, digits c.green, digits c.blue] := by
  rw [RawColor.line, words_append_cons _ _ (by decide), words_append_cons _ _ (by decide),
    (isWord_digits _).words_eq, (isWord_digits _).words_eq, (isWord_digits _).words_eq]
  rfl

theorem Binary64.ofDecimal_whole (n : Nat) (h : n < 2 ^ 53) : ofDecimal false n 0 = ofNat n := by
  rcases Nat.eq_zero_or_pos n with rfl | hpos
  · obtain ⟨m, hm, hu⟩ := ofNat_eq_finite h
    have hz : m = .zero := Magnitude.ext (hu.trans (Nat.zero_mul _))
    rw [hm, hz]
    rfl
  · have hn : n * 10 ^ 0 = n := Nat.mul_one n
    unfold ofDecimal
    rw [if_neg (Nat.ne_of_gt hpos)]
    change (if 310 ≤ 0 then _ else ofQuotient false (n * 10 ^ 0) 1) = _
    rw [if_neg (by decide), hn, ofNat]

theorem readChannel_digits {n : Nat} (h : n < 2 ^ 53) : readChannel (digits n) = .ok (.ofNat n) := by
  obtain ⟨m, hm, -⟩ := Binary64.ofNat_eq_finite h
  have hv : (Literal.decimal false n 0).value = .ofNat n := Binary64.ofDecimal_whole n h
  unfold readChannel
  rw [Literal.ofChars?_digits]
  simp only [hv, hm, Binary64.isFinite, if_true]

theorem readRecord_line {most : Nat} {c : RawColor} (hmost : most < 2 ^ 53) (hc : c.AtMost most) :
    readRecord (.ofNat most) c.line = .ok (c.scaledBy most) := by
  obtain ⟨hr, hg, hb⟩ := hc
  unfold readRecord
  rw [words_line]
  simp only [readChannel_digits (Nat.lt_of_le_of_lt hr hmost),
    readChannel_digits (Nat.lt_of_le_of_lt hg hmost), readChannel_digits (Nat.lt_of_le_of_lt hb hmost)]
  rfl

theorem plainText_line (c : RawColor) : PlainText c.line := by
  have hdigits : ∀ n, PlainText (digits n) :=
    fun n _ h => IsNumeral.isPlain (Or.inl (isDigit_of_mem_digits h))
  have hblank : IsPlain ' ' := by decide
  rw [RawColor.line, plainText_append, plainText_cons, plainText_append, plainText_cons]
  exact ⟨hdigits _, hblank, hdigits _, hblank, hdigits _⟩

theorem lines_rawText (grid : List RawColor) :
    lines newlineByte (rawText grid) = grid.map fun c => encodeUtf8 c.line := by
  have hplain : ∀ l ∈ grid.map RawColor.line, PlainText l := by
    intro l hl
    obtain ⟨c, hc, rfl⟩ := List.mem_map.mp hl
    exact plainText_line c
  rw [rawText, Sink.textOf, lines_textOf hplain, List.map_map]
  rfl

/-- All lines of a text of entries are accepted. -/
theorem acceptedColors_rawText {most : Nat} {grid : List RawColor} (hmost : most < 2 ^ 53)
    (hgrid : ∀ c ∈ grid, c.AtMost most) :
    acceptedColors (.ofNat most) (lines newlineByte (rawText grid)) = grid.map (RawColor.scaledBy most) := by
  rw [lines_rawText]
  induction grid with
  | nil => rfl
  | cons c rest ih =>
    obtain ⟨hc, hrest⟩ := List.forall_mem_cons.mp hgrid
    rw [List.map_cons, List.map_cons, acceptedColors_cons, decodeUtf8_encodeUtf8,
      readRecord_line hmost hc, ih hrest]
    rfl

/-- The number that a literal spells. -/
def Literal.number? : Literal → Option ℚ
  | .decimal negative digits exponent =>
    some ((if negative then -1 else 1) * digits * (10 : ℚ) ^ exponent)
  | _ => none

/-- The numbers that a record shows. -/
structure ShownColor where
  red : ℚ
  green : ℚ
  blue : ℚ

def shownNumber? (s : List Char) : Option ℚ := (Literal.ofChars? s).bind Literal.number?

/-- A number with the sign that a flag stands for. -/
def signedBy (negative : Bool) (q : ℚ) : ℚ := if negative then -q else q

@[simp] theorem signedBy_false (q : ℚ) : signedBy false q = q := rfl

@[simp] theorem signedBy_true (q : ℚ) : signedBy true q = -q := rfl

/-- A printed decimal is read as its millionths. -/
theorem shownNumber?_sixPlaces (negative : Bool) (n : Nat) :
    shownNumber? (minusIf negative (sixPlaces n)) = some (signedBy negative (n / 10 ^ 6)) := by
  rw [shownNumber?, Literal.ofChars?_sixPlaces, Option.bind_some, Literal.number?]
  cases negative <;> simp [div_eq_mul_inv, zpow_neg]

/-- Reads the numbers that a record shows. -/
def shownColor? (line : List Char) : Option ShownColor :=
  (shownTexts? line).bind fun (red, green, blue) =>
    (shownNumber? red).bind fun r => (shownNumber? green).bind fun g =>
      (shownNumber? blue).map fun b => ⟨r, g, b⟩

/-- Reads the numbers on a line of a text, lines being counted from 0. -/
def shownAt? (output : List UInt8) (n : Nat) : Option ShownColor :=
  ((lines newlineByte output)[n]?).bind fun line => shownColor? (decodeUtf8 line)

namespace RawColor

/-- Shown numbers lie less than half a raw step from the raw values. -/
def IsNear (most : Nat) (c : RawColor) (shown : ShownColor) : Prop :=
  |shown.red * most - c.red| < 1 / 2 ∧ |shown.green * most - c.green| < 1 / 2 ∧
    |shown.blue * most - c.blue| < 1 / 2

/-- The raw values nearest to shown numbers. -/
def nearest (most : Nat) (shown : ShownColor) : RawColor :=
  ⟨(round (shown.red * most)).toNat, (round (shown.green * most)).toNat,
    (round (shown.blue * most)).toNat⟩

end RawColor

/-- A number less than half from a whole one is rounded to it. -/
theorem toNat_round {x : ℚ} {n : Nat} (h : |x - n| < 1 / 2) : (round x).toNat = n := by
  rw [abs_lt] at h
  have hr : round x = n := by
    rw [round_eq, Int.floor_eq_iff]
    push_cast
    constructor
    · linarith
    · linarith
  rw [hr, Int.toNat_natCast]

theorem RawColor.IsNear.nearest_eq {most : Nat} {c : RawColor} {shown : ShownColor}
    (h : c.IsNear most shown) : nearest most shown = c := by
  obtain ⟨hr, hg, hb⟩ := h
  rw [nearest, toNat_round hr, toNat_round hg, toNat_round hb]

/-- The printed channel of a raw value is read as a number near to it. -/
theorem exists_shownNumber? {raw most : Nat} (hraw : raw ≤ most) (hpos : 1 ≤ most)
    (hmost : most ≤ 999999) :
    ∃ x, shownNumber? (Binary64.ofNat raw / Binary64.ofNat most).toFixed = some x ∧
      |x * most - raw| < 1 / 2 := by
  obtain ⟨m, hm, hnear⟩ := Binary64.abs_millionths_div_sub_lt hraw hpos hmost
  refine ⟨(m.millionths : ℚ) / (10 : ℚ) ^ 6, ?_, hnear⟩
  rw [hm, Binary64.toFixed, shownNumber?_sixPlaces, signedBy_false]

theorem Color.shownColor?_render {c : Color} {r g b : ℚ} (hr : shownNumber? c.red.toFixed = some r)
    (hg : shownNumber? c.green.toFixed = some g) (hb : shownNumber? c.blue.toFixed = some b) :
    shownColor? c.render = some ⟨r, g, b⟩ := by
  rw [shownColor?, c.shownTexts?_render]
  simp only [Option.bind_some, hr, hg, hb, Option.map_some]

/-- The record of an entry shows numbers near to its raw values. -/
theorem exists_shownColor? {most : Nat} {c : RawColor} (hpos : 1 ≤ most) (hmost : most ≤ 999999)
    (hc : c.AtMost most) :
    ∃ shown, shownColor? (c.scaledBy most).render = some shown ∧ c.IsNear most shown := by
  obtain ⟨r, hr, hrn⟩ := exists_shownNumber? hc.1 hpos hmost
  obtain ⟨g, hg, hgn⟩ := exists_shownNumber? hc.2.1 hpos hmost
  obtain ⟨b, hb, hbn⟩ := exists_shownNumber? hc.2.2 hpos hmost
  refine ⟨⟨r, g, b⟩, ?_, hrn, hgn, hbn⟩
  exact Color.shownColor?_render hr hg hb

section Grid

variable (order : Traversal) {side most : Nat} {grid : List RawColor}

/-- The line at the rank of a position shows the entry that is looked up there. -/
theorem shownAt?_textOf (most : Nat) (hlength : grid.length = side ^ 3) (p : Position side) :
    ∃ c, grid[(order.lookup p).rank]? = some c ∧
      shownAt? (Sink.textOf (gridLines order side (grid.map (RawColor.scaledBy most)))) p.rank =
        shownColor? (c.scaledBy most).render := by
  have hlt : (order.lookup p).rank < grid.length := hlength ▸ (order.lookup p).rank_lt
  have hcolors : side ^ 3 ≤ (grid.map (RawColor.scaledBy most)).length := by
    rw [List.length_map, hlength]
  have hlines := lines_textOf_gridLines order side (grid.map (RawColor.scaledBy most))
  have hline := getElem?_gridLines_rank order hcolors p
  rw [List.getElem?_map, List.getElem?_eq_getElem hlt, ← hlines, List.getElem?_map] at hline
  refine ⟨_, List.getElem?_eq_getElem hlt, ?_⟩
  cases hl : (lines newlineByte
      (Sink.textOf (gridLines order side (grid.map (RawColor.scaledBy most)))))[p.rank]? with
  | none =>
    rw [hl] at hline
    exact absurd hline nofun
  | some l =>
    rw [hl] at hline
    have hd : decodeUtf8 l = _ := Option.some.inj hline
    rw [shownAt?, hl, Option.bind_some, hd]

/-- So it shows numbers near to the raw values of that entry. -/
theorem exists_shownAt? (hpos : 1 ≤ most) (hmost : most ≤ 999999) (hlength : grid.length = side ^ 3)
    (hgrid : ∀ c ∈ grid, c.AtMost most) (p : Position side) :
    ∃ c shown, grid[(order.lookup p).rank]? = some c ∧
      shownAt? (Sink.textOf (gridLines order side (grid.map (RawColor.scaledBy most)))) p.rank =
        some shown ∧ c.IsNear most shown := by
  obtain ⟨c, hc, hs⟩ := shownAt?_textOf order most hlength p
  obtain ⟨shown, hshown, hnear⟩ := exists_shownColor? hpos hmost (hgrid c (List.mem_of_getElem? hc))
  exact ⟨c, shown, hc, hs.trans hshown, hnear⟩

/-- The grid that a text shows: at each rank the raw values nearest to the numbers on the line whose position
looks up this rank. -/
def recoveredGrid (order : Traversal) (side most : Nat) (output : List UInt8) : List RawColor :=
  (Position.all side).filterMap fun p =>
    (shownAt? output (order.lookup p).rank).map (RawColor.nearest most)

theorem recoveredGrid_textOf (hpos : 1 ≤ most) (hmost : most ≤ 999999)
    (hlength : grid.length = side ^ 3) (hgrid : ∀ c ∈ grid, c.AtMost most) :
    recoveredGrid order side most
      (Sink.textOf (gridLines order side (grid.map (RawColor.scaledBy most)))) = grid := by
  have hf : (fun p : Position side => (shownAt? (Sink.textOf
      (gridLines order side (grid.map (RawColor.scaledBy most)))) (order.lookup p).rank).map
        (RawColor.nearest most)) = fun p => grid[p.rank]? := by
    funext p
    obtain ⟨c, shown, hc, hs, hnear⟩ := exists_shownAt? order hpos hmost hlength hgrid (order.lookup p)
    rw [Traversal.lookup_lookup] at hc
    rw [hs, hc, Option.map_some, hnear.nearest_eq]
  rw [recoveredGrid, hf, Position.filterMap_all_rank hlength]

end Grid

namespace Converter

/-- A text of entries is converted to the text of their grid. -/
theorem convert_rawText {settings : Settings} {most : Nat} {grid : List RawColor} (sink : Sink)
    (hside : 1 ≤ settings.side) (hcube : settings.side ^ 3 ≤ 2 ^ 64 - 1) (hpos : 1 ≤ most)
    (hmost : most ≤ 999999) (hscale : settings.fullScale = .ofNat most)
    (hlength : grid.length = settings.side ^ 3) (hgrid : ∀ c ∈ grid, c.AtMost most)
    (hlimit : sink.limit = none) (hflush : sink.flushFault = none) :
    let run := (standard settings).convert { bytes := rawText grid } sink
    run.result = .ok ⟨settings.side ^ 3, 0, settings.side ^ 3⟩ ∧
      run.state.written = sink.written ++
        Sink.textOf (gridLines settings.order settings.side (grid.map (RawColor.scaledBy most))) := by
  intro run
  have hcolors : Source.colors settings.fullScale { bytes := rawText grid } =
      grid.map (RawColor.scaledBy most) := by
    rw [hscale]
    exact acceptedColors_rawText (by omega) hgrid
  have hlines : (Source.lines { bytes := rawText grid }).length = settings.side ^ 3 := by
    rw [Source.lines, lines_rawText, List.length_map, hlength]
  have hf : settings.fullScale.isPositiveFinite := by
    obtain ⟨m, hm, hu⟩ := Binary64.ofNat_eq_finite (n := most) (by omega)
    have hne : m.units ≠ 0 := by
      rw [hu]
      exact Nat.ne_of_gt (Nat.mul_pos hpos unitsPerOne_pos)
    rw [hscale, hm]
    simp [Binary64.isPositiveFinite, hne]
  have hcount : (grid.map (RawColor.scaledBy most)).length = settings.side ^ 3 := by
    rw [List.length_map, hlength]
  have henough : settings.side ^ 3 ≤ (Source.colors settings.fullScale { bytes := rawText grid }).length := by
    rw [hcolors, hcount]
  obtain ⟨hr, hw⟩ := convert_of_enough settings { bytes := rawText grid } sink hside hcube hf henough
    rfl hlimit hflush
  refine ⟨hr.trans ?_, hw.trans ?_⟩
  · rw [summaryOf, hcolors, hlines, hcount, Nat.sub_self]
  · rw [textOf, textFor, hcolors]

/-- A conversion of whole numbers up to full scale succeeds, and the grid is found again in what it writes: the
line of a position shows numbers that lie, times full scale, less than half from the raw values that the order
looks up there. So the text tells any two grids apart. -/
theorem convert_loses_nothing (settings : Settings) (most : Nat) (grid : List RawColor) (sink : Sink)
    (hside : 1 ≤ settings.side) (hcube : settings.side ^ 3 ≤ 2 ^ 64 - 1) (hpos : 1 ≤ most)
    (hmost : most ≤ 999999) (hscale : settings.fullScale = .ofNat most)
    (hlength : grid.length = settings.side ^ 3) (hgrid : ∀ c ∈ grid, c.AtMost most)
    (hlimit : sink.limit = none) (hflush : sink.flushFault = none) :
    let side := settings.side
    let run (grid : List RawColor) := (standard settings).convert { bytes := rawText grid } sink
    (run grid).result = .ok ⟨side ^ 3, 0, side ^ 3⟩ ∧
    (∃ output, (run grid).state.written = sink.written ++ output ∧
      recoveredGrid settings.order side most output = grid ∧
      ∀ i j k, i < side → j < side → k < side → ∃ c shown,
        grid[settings.order.rankAt side i j k]? = some c ∧
        shownAt? output (i * side ^ 2 + j * side + k) = some shown ∧ c.IsNear most shown) ∧
    ∀ other : List RawColor, other.length = side ^ 3 → (∀ c ∈ other, c.AtMost most) →
      (run other).state.written = (run grid).state.written → other = grid := by
  intro side run
  obtain ⟨hr, hw⟩ := convert_rawText sink hside hcube hpos hmost hscale hlength hgrid hlimit hflush
  have hrecovered := recoveredGrid_textOf settings.order hpos hmost hlength hgrid
  refine ⟨hr, ⟨_, hw, hrecovered, ?_⟩, ?_⟩
  · intro i j k hi hj hk
    obtain ⟨c, shown, hc, hs, hnear⟩ :=
      exists_shownAt? settings.order hpos hmost hlength hgrid ⟨⟨i, hi⟩, ⟨j, hj⟩, ⟨k, hk⟩⟩
    rw [Traversal.rank_lookup] at hc
    rw [Position.rank_eq] at hs
    exact ⟨c, shown, hc, hs, hnear⟩
  · intro other hlength' hgrid' heq
    obtain ⟨-, hw'⟩ :=
      convert_rawText sink hside hcube hpos hmost hscale hlength' hgrid' hlimit hflush
    have htext := List.append_cancel_left (hw'.symm.trans (heq.trans hw))
    rw [← recoveredGrid_textOf settings.order hpos hmost hlength' hgrid', htext, hrecovered]

/-- Eight entries with six digits, written with the first and the last axis exchanged. -/
theorem convert_loses_nothing_of_eight :
    let settings : Settings := ⟨.ofNat 999999, 2, .bgr, .fail⟩
    let grid : List RawColor := (List.range 8).map fun n => ⟨n, 999999 - n, 123456 * n⟩
    let run := (standard settings).convert { bytes := rawText grid } {}
    run.result = .ok ⟨8, 0, 8⟩ ∧
    ∃ output, run.state.written = output ∧ recoveredGrid .bgr 2 999999 output = grid := by
  intro settings grid run
  have hgrid : ∀ c ∈ grid, c.AtMost 999999 := by decide
  obtain ⟨hr, ⟨output, hw, hrecovered, -⟩, -⟩ := convert_loses_nothing settings 999999 grid {}
    (by decide) (by decide) (by decide) (by decide) rfl rfl hgrid rfl rfl
  exact ⟨hr, output, hw, hrecovered⟩

end Converter

end ColorCube
