import ColorCube.Text.Words

/-!
# Trimming

Trimming takes white space off a text at both of its ends and leaves none there. This fixes the text that remains.
-/

namespace ColorCube

/-- Text that is white space throughout. -/
def IsBlank (s : List Char) : Prop := ∀ c ∈ s, isSpace c

theorem isBlank_nil : IsBlank [] := List.forall_mem_nil _

theorem isBlank_cons {c : Char} {s : List Char} : IsBlank (c :: s) ↔ isSpace c ∧ IsBlank s :=
  List.forall_mem_cons

theorem isBlank_reverse {s : List Char} : IsBlank s.reverse ↔ IsBlank s := by
  simp only [IsBlank, List.mem_reverse]

theorem isBlank_takeWhile (s : List Char) : IsBlank (s.takeWhile isSpace) :=
  List.all_eq_true.mp List.all_takeWhile

theorem trim_blank_append {s : List Char} (h : IsBlank s) (t : List Char) : trim (s ++ t) = trim t := by
  rw [trim, List.dropWhile_append_of_pos h, trim]

theorem trim_append_blank (s : List Char) {t : List Char} (h : IsBlank t) : trim (s ++ t) = trim s := by
  rw [trim, List.dropWhile_append]
  split
  next hs =>
    rw [List.isEmpty_iff] at hs
    have ht : (t ++ []).dropWhile isSpace = [] := by rw [List.dropWhile_append_of_pos h, List.dropWhile_nil]
    rw [List.append_nil] at ht
    rw [trim, hs, ht]
  next => rw [List.reverse_append, List.dropWhile_append_of_pos (isBlank_reverse.mpr h), trim]

theorem isSpace_head_dropWhile (s : List Char) : ∀ c ∈ (s.dropWhile isSpace).head?, isSpace c = false := by
  have h := List.head?_dropWhile_not isSpace s
  intro c hc
  rw [hc] at h
  exact h

theorem dropWhile_eq_of_head {s : List Char} (h : ∀ c ∈ s.head?, isSpace c = false) :
    s.dropWhile isSpace = s := by
  cases s with
  | nil => rfl
  | cons c s => exact List.dropWhile_cons_of_neg (by simp [h c rfl])

/-- A text, and what remains of it without the white space around it. -/
structure TrimsTo (s content : List Char) : Prop where
  exists_blank : ∃ before after, IsBlank before ∧ IsBlank after ∧ s = before ++ (content ++ after)
  head : ∀ c ∈ content.head?, isSpace c = false
  last : ∀ c ∈ content.getLast?, isSpace c = false

theorem TrimsTo.trim_eq {s content : List Char} (h : TrimsTo s content) : trim s = content := by
  obtain ⟨before, after, hbefore, hafter, rfl⟩ := h.exists_blank
  have hreverse : ∀ c ∈ content.reverse.head?, isSpace c = false := by
    rw [List.head?_reverse]
    exact h.last
  rw [trim_blank_append hbefore, trim_append_blank _ hafter, trim, dropWhile_eq_of_head h.head,
    dropWhile_eq_of_head hreverse, List.reverse_reverse]

theorem trimsTo_trim (s : List Char) : TrimsTo s (trim s) := by
  let after := ((s.dropWhile isSpace).reverse.takeWhile isSpace).reverse
  have hrest : trim s ++ after = s.dropWhile isSpace := by
    rw [trim, ← List.reverse_append, List.takeWhile_append_dropWhile, List.reverse_reverse]
  refine ⟨⟨s.takeWhile isSpace, after, isBlank_takeWhile s, isBlank_reverse.mpr (isBlank_takeWhile _), ?_⟩, ?_, ?_⟩
  · rw [hrest, List.takeWhile_append_dropWhile]
  · intro c hc
    apply isSpace_head_dropWhile s c
    rw [← hrest, List.head?_append, hc]
    rfl
  · rw [trim, List.getLast?_reverse]
    exact isSpace_head_dropWhile _

/-- There is one text that remains. -/
theorem trimsTo_iff {s content : List Char} : TrimsTo s content ↔ trim s = content := by
  constructor
  · exact TrimsTo.trim_eq
  · rintro rfl
    exact trimsTo_trim s

end ColorCube
