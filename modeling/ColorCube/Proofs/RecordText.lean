import ColorCube.Proofs.Grid
import ColorCube.Proofs.PlainText

/-!
# Printed records

A record shows three texts. When these have no commas they are found again between the commas of the record,
so two records that look alike show the same texts. A double is shown as a decimal with six places just when
it is finite.
-/

namespace ColorCube

/-- The record that shows three texts. -/
def recordText (red green blue : List Char) : List Char :=
  "\t\x7b .red = ".toList ++ red ++ ", .green = ".toList ++ green ++ ", .blue = ".toList ++ blue ++
    " \x7d,".toList

theorem Color.render_eq_recordText (c : Color) :
    c.render = recordText c.red.toFixed c.green.toFixed c.blue.toFixed := by
  unfold Color.render recordText
  rfl

/-- The texts that a record shows, cut out of the pieces between its commas. -/
def shownTexts? (line : List Char) : Option (List Char × List Char × List Char) :=
  match line.splitOn ',' with
  | [red, green, blue, _] => some (red.drop 10, green.drop 10, (blue.drop 9).dropLast.dropLast)
  | _ => none

/-- Texts without commas are found again in the record that shows them. -/
theorem shownTexts?_recordText {red green blue : List Char} (hr : ',' ∉ red) (hg : ',' ∉ green)
    (hb : ',' ∉ blue) : shownTexts? (recordText red green blue) = some (red, green, blue) := by
  have hred : ',' ∉ "\t\x7b .red = ".toList ++ red := by simp [hr]
  have hgreen : ',' ∉ " .green = ".toList ++ green := by simp [hg]
  have hblue : ',' ∉ " .blue = ".toList ++ blue ++ " \x7d".toList := by simp [hb]
  have hsplit : recordText red green blue = ("\t\x7b .red = ".toList ++ red) ++ ',' ::
      ((" .green = ".toList ++ green) ++ ',' ::
        ((" .blue = ".toList ++ blue ++ " \x7d".toList) ++ ',' :: [])) := by
    unfold recordText
    simp
  unfold shownTexts?
  rw [hsplit, List.splitOn_append_cons_self, List.splitOn_append_cons_self,
    List.splitOn_append_cons_self, List.splitOn_eq_singleton hred, List.splitOn_eq_singleton hgreen,
    List.splitOn_eq_singleton hblue]
  simp

theorem comma_notMem_toFixed (x : Binary64) : ',' ∉ x.toFixed := by
  intro h
  exact absurd (Binary64.isNumeral_of_mem_toFixed h) (by decide)

theorem Color.shownTexts?_render (c : Color) :
    shownTexts? c.render = some (c.red.toFixed, c.green.toFixed, c.blue.toFixed) := by
  rw [c.render_eq_recordText]
  exact shownTexts?_recordText (comma_notMem_toFixed _) (comma_notMem_toFixed _)
    (comma_notMem_toFixed _)

/-- Maybe a minus, then one digit or more, a point and six digits. -/
def IsSixPlaces (s : List Char) : Prop :=
  ∃ negative whole places, s = minusIf negative (whole ++ '.' :: places) ∧ whole ≠ [] ∧
    (∀ c ∈ whole, c.isDigit) ∧ places.length = 6 ∧ ∀ c ∈ places, c.isDigit

theorem isSixPlaces_sixPlaces (negative : Bool) (n : Nat) :
    IsSixPlaces (minusIf negative (sixPlaces n)) := by
  refine ⟨negative, digits (n / 10 ^ 6), (digits (n % 10 ^ 6)).leftpad 6 '0', rfl, digits_ne_nil _,
    fun _ => isDigit_of_mem_digits, ?_, fun _ => isDigit_of_mem_leftpad⟩
  exact length_leftpad_digits (by decide) (Nat.mod_lt n (by decide))

theorem IsSixPlaces.isNumeral {s : List Char} (h : IsSixPlaces s) : ∀ c ∈ s, IsNumeral c := by
  obtain ⟨negative, whole, places, rfl, hne, hw, hl, hp⟩ := h
  intro c hc
  refine isNumeral_of_mem_minusIf ?_ hc
  intro c hc
  rw [List.mem_append, List.mem_cons] at hc
  rcases hc with hc | rfl | hc
  · exact Or.inl (hw c hc)
  · exact Or.inr (by decide)
  · exact Or.inl (hp c hc)

theorem IsSixPlaces.point_mem {s : List Char} (h : IsSixPlaces s) : '.' ∈ s := by
  obtain ⟨negative, whole, places, rfl, -⟩ := h
  cases negative <;> simp [minusIf]

theorem IsSixPlaces.comma_notMem {s : List Char} (h : IsSixPlaces s) : ',' ∉ s := by
  intro hc
  exact absurd (h.isNumeral _ hc) (by decide)

/-- A double is shown as a decimal with six places just when it is finite. -/
theorem Binary64.isSixPlaces_toFixed_iff (x : Binary64) : IsSixPlaces x.toFixed ↔ x.isFinite := by
  cases x with
  | nan =>
    refine iff_of_false ?_ Bool.false_ne_true
    intro h
    exact absurd h.point_mem (by decide)
  | infinite negative =>
    refine iff_of_false ?_ Bool.false_ne_true
    intro h
    have hp := h.point_mem
    revert hp
    cases negative <;> decide
  | finite negative m => exact iff_of_true (isSixPlaces_sixPlaces negative m.millionths) rfl

/-- A record that shows three decimals with six places. -/
def IsDecimalRecord (line : List Char) : Prop :=
  ∃ red green blue, line = recordText red green blue ∧
    IsSixPlaces red ∧ IsSixPlaces green ∧ IsSixPlaces blue

/-- All channels are finite numbers. -/
def Color.IsFinite (c : Color) : Prop := c.red.isFinite ∧ c.green.isFinite ∧ c.blue.isFinite

theorem Color.isDecimalRecord_render_iff (c : Color) : IsDecimalRecord c.render ↔ c.IsFinite := by
  constructor
  · rintro ⟨red, green, blue, he, hr, hg, hb⟩
    have hs := shownTexts?_recordText hr.comma_notMem hg.comma_notMem hb.comma_notMem
    rw [← he, c.shownTexts?_render] at hs
    obtain ⟨rfl, rfl, rfl⟩ : c.red.toFixed = red ∧ c.green.toFixed = green ∧ c.blue.toFixed = blue := by
      simpa using hs
    exact ⟨(Binary64.isSixPlaces_toFixed_iff _).mp hr, (Binary64.isSixPlaces_toFixed_iff _).mp hg,
      (Binary64.isSixPlaces_toFixed_iff _).mp hb⟩
  · rintro ⟨hr, hg, hb⟩
    exact ⟨_, _, _, c.render_eq_recordText, (Binary64.isSixPlaces_toFixed_iff _).mpr hr,
      (Binary64.isSixPlaces_toFixed_iff _).mpr hg, (Binary64.isSixPlaces_toFixed_iff _).mpr hb⟩

theorem exists_render_of_mem_gridLines {order : Traversal} {side : Nat} {colors : List Color} {line : List Char}
    (h : line ∈ gridLines order side colors) : ∃ c : Color, c.render = line := by
  rw [gridLines_eq_filterMap, List.mem_filterMap] at h
  obtain ⟨p, -, he⟩ := h
  obtain ⟨c, -, hc⟩ := Option.map_eq_some_iff.mp he
  exact ⟨c, hc⟩

/-- Records hold no newline, so they are plain lines. -/
theorem plainText_of_render {ls : List (List Char)} (h : ∀ l ∈ ls, ∃ c : Color, c.render = l) :
    ∀ l ∈ ls, PlainText l := by
  intro l hl
  obtain ⟨c, rfl⟩ := h l hl
  exact c.plainText_render

theorem exists_render_of_mem_map {colors : List Color} {line : List Char} (h : line ∈ colors.map Color.render) :
    ∃ c : Color, c.render = line := by
  obtain ⟨c, -, hc⟩ := List.mem_map.mp h
  exact ⟨c, hc⟩

theorem plainText_gridLines (order : Traversal) (side : Nat) (colors : List Color) :
    ∀ l ∈ gridLines order side colors, PlainText l :=
  plainText_of_render fun _ => exists_render_of_mem_gridLines

/-- The records of a grid are the lines of its text. -/
theorem lines_textOf_gridLines (order : Traversal) (side : Nat) (colors : List Color) :
    (lines newlineByte (Sink.textOf (gridLines order side colors))).map decodeUtf8 =
      gridLines order side colors :=
  map_decodeUtf8_lines_textOf (plainText_gridLines order side colors)

end ColorCube
