import ColorCube.Text.Lines

/-!
# Line breaks

A text is a row of lines that newlines close, and then perhaps a piece that none closes. Facts about its
lines are proved by induction along that row. Where a line starts, a text can be cut in two: its lines are
those of the two parts.
-/

namespace ColorCube

variable {α : Type} {newline : α}

/-- Induction along the lines of a text: it has no newline, or it is a line, its newline and a shorter
text. -/
@[elab_as_elim]
theorem induction_on_lines {P : List α → Prop} (newline : α) (s : List α)
    (unclosed : ∀ s, newline ∉ s → P s)
    (closed : ∀ s t, newline ∉ s → P t → P (s ++ newline :: t)) : P s := by
  -- What has been read of the first line waits in front.
  have h : ∀ s line, newline ∉ line → P (line ++ s) := by
    intro s
    induction s with
    | nil =>
      intro line hl
      simpa using unclosed line hl
    | cons c s ih =>
      intro line hl
      by_cases hc : newline = c
      · subst hc
        exact closed line s hl (by simpa using ih [] (by simp))
      · simpa using ih (line ++ [c]) (by simp [hl, hc])
  simpa using h s [] (by simp)

variable [BEq α]

/-- Whether a line starts where a text ends: it is empty, or a newline ends it. -/
def endsLine (newline : α) (s : List α) : Bool := s.getLast?.all (· == newline)

@[simp] theorem endsLine_nil : endsLine newline [] = true := rfl

variable [LawfulBEq α]

theorem endsLine_iff {s : List α} :
    endsLine newline s ↔ s = [] ∨ s.getLast? = some newline := by
  rcases s.eq_nil_or_concat with rfl | ⟨s, c, rfl⟩ <;> simp [endsLine]

theorem endsLine_of_notMem {s : List α} (h : newline ∉ s) : endsLine newline s = s.isEmpty := by
  rcases s.eq_nil_or_concat with rfl | ⟨s, c, rfl⟩
  · rfl
  · rw [List.concat_eq_append] at h ⊢
    have hc : c ≠ newline := by
      rintro rfl
      simp at h
    simp [endsLine, beq_eq_false_iff_ne.mpr hc]

@[simp] theorem endsLine_append_cons (s t : List α) :
    endsLine newline (s ++ newline :: t) = endsLine newline t := by
  rcases t.eq_nil_or_concat with rfl | ⟨t, c, rfl⟩
  · simp [endsLine]
  · rw [List.concat_eq_append]
    have h : s ++ newline :: (t ++ [c]) = (s ++ newline :: t) ++ [c] := by simp
    rw [endsLine, h, List.getLast?_concat, endsLine, List.getLast?_concat]

theorem lines_of_notMem {s : List α} (h : newline ∉ s) :
    lines newline s = if s.isEmpty then [] else [s] := by
  simp [lines, completeLines, List.splitOn_eq_singleton h]

theorem lines_closed {s : List α} (h : newline ∉ s) (t : List α) :
    lines newline (s ++ newline :: t) = s :: lines newline t := by
  rw [lines_append_cons, List.splitOn_eq_singleton h, List.singleton_append]

theorem newline_notMem_of_mem_lines {s line : List α} (h : line ∈ lines newline s) :
    newline ∉ line := by
  induction s using induction_on_lines newline with
  | unclosed s hs =>
    rw [lines_of_notMem hs] at h
    cases s <;> simp_all
  | closed s t hs ih =>
    rw [lines_closed hs, List.mem_cons] at h
    rcases h with rfl | h
    · exact hs
    · exact ih h

/-- Lines are not divided by a cut where a line starts. -/
theorem lines_append {s : List α} (h : endsLine newline s) (t : List α) :
    lines newline (s ++ t) = lines newline s ++ lines newline t := by
  induction s using induction_on_lines newline with
  | unclosed s hs =>
    rw [endsLine_of_notMem hs, List.isEmpty_iff] at h
    simp [h]
  | closed s rest hs ih =>
    rw [endsLine_append_cons] at h
    rw [List.append_assoc, List.cons_append, lines_closed hs, lines_closed hs, ih h, List.cons_append]

/-- A newline after the last line only closes it. -/
theorem lines_concat_newline {s : List α} (h : ¬ endsLine newline s) :
    lines newline (s ++ [newline]) = lines newline s := by
  induction s using induction_on_lines newline with
  | unclosed s hs =>
    rw [endsLine_of_notMem hs] at h
    rw [lines_closed hs, lines_of_notMem hs, if_neg h, lines_nil]
  | closed s t hs ih =>
    rw [endsLine_append_cons] at h
    rw [List.append_assoc, List.cons_append, lines_closed hs, lines_closed hs, ih h]

/-- The lines with their newlines are the text, and a newline that was missing at its end. -/
theorem flatMap_lines (s : List α) :
    (lines newline s).flatMap (· ++ [newline]) =
      s ++ if endsLine newline s then [] else [newline] := by
  induction s using induction_on_lines newline with
  | unclosed s hs =>
    rw [lines_of_notMem hs, endsLine_of_notMem hs]
    cases s <;> simp
  | closed s t hs ih => simp [lines_closed hs, ih]

theorem length_lines (s : List α) :
    (lines newline s).length = s.count newline + if endsLine newline s then 0 else 1 := by
  induction s using induction_on_lines newline with
  | unclosed s hs =>
    rw [lines_of_notMem hs, endsLine_of_notMem hs, List.count_eq_zero_of_not_mem hs]
    cases s <;> simp
  | closed s t hs ih =>
    simp [lines_closed hs, ih, List.count_eq_zero_of_not_mem hs]
    omega

/-- As many lines start before a cut where a line starts as there are newlines there. -/
theorem length_lines_of_endsLine {s : List α} (h : endsLine newline s) :
    (lines newline s).length = s.count newline := by
  rw [length_lines, if_pos h, Nat.add_zero]

/-- The longest beginning of a text after which a line starts. -/
structure IsClosedPart (newline : α) (closed s : List α) : Prop where
  begins : closed <+: s
  endsLine : endsLine newline closed
  longest : ∀ other, other <+: s → ColorCube.endsLine newline other → other.length ≤ closed.length

/-- What follows the closed part of a text has no newline. -/
theorem exists_closedPart (newline : α) (s : List α) :
    ∃ closed rest, s = closed ++ rest ∧ endsLine newline closed ∧ newline ∉ rest := by
  induction s using induction_on_lines newline with
  | unclosed s hs => exact ⟨[], s, rfl, rfl, hs⟩
  | closed s t hs ih =>
    obtain ⟨closed, rest, rfl, hc, hr⟩ := ih
    exact ⟨s ++ newline :: closed, rest, by simp, by rwa [endsLine_append_cons], hr⟩

theorem isClosedPart_append {closed rest : List α} (h : endsLine newline closed) (hr : newline ∉ rest) :
    IsClosedPart newline closed (closed ++ rest) := by
  refine ⟨List.prefix_append closed rest, h, ?_⟩
  intro other hp ho
  rcases Nat.le_total other.length closed.length with hle | hle
  · exact hle
  · -- A longer beginning reaches into the rest, and would have to end there.
    obtain ⟨t, rfl⟩ := List.prefix_of_prefix_length_le (List.prefix_append closed rest) hp hle
    have ht : t <+: rest := (List.prefix_append_right_inj closed).mp hp
    rcases t.eq_nil_or_concat with rfl | ⟨t, c, rfl⟩
    · exact Nat.le_of_eq (congrArg List.length (List.append_nil closed))
    · rw [List.concat_eq_append] at ho ht
      rw [← List.append_assoc, endsLine_iff, List.getLast?_concat] at ho
      have hc : c = newline := by simpa using ho
      exact absurd (ht.subset (by simp [hc])) hr

/-- The lines that a newline closes are those of the closed part. -/
theorem completeLines_append {closed rest : List α} (h : endsLine newline closed) (hr : newline ∉ rest) :
    completeLines newline (closed ++ rest) = lines newline closed := by
  induction closed using induction_on_lines newline with
  | unclosed s hs =>
    rw [endsLine_of_notMem hs, List.isEmpty_iff] at h
    simp [h, completeLines, List.splitOn_eq_singleton hr]
  | closed s t hs ih =>
    rw [endsLine_append_cons] at h
    rw [List.append_assoc, List.cons_append, completeLines_append_cons, lines_append_cons, ih h]

end ColorCube
