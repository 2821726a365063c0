/-!
# Lines

The lines of a text are the pieces between its newlines. A newline at the very end closes the last line
and opens no further one. A piece that no newline closes is a line too, but not a complete one.
-/

namespace ColorCube

variable {α : Type} [BEq α]

/-- The lines that a newline closes. -/
def completeLines (newline : α) (s : List α) : List (List α) := (s.splitOn newline).dropLast

/-- All lines, the last one also when no newline closes it. -/
def lines (newline : α) (s : List α) : List (List α) :=
  if ((s.splitOn newline).getLastD []).isEmpty then completeLines newline s else s.splitOn newline

@[simp] theorem completeLines_nil (newline : α) : completeLines newline [] = [] := by
  simp [completeLines]

@[simp] theorem lines_nil (newline : α) : lines newline [] = [] := by simp [lines]

theorem completeLines_append_cons [ReflBEq α] (newline : α) (s t : List α) :
    completeLines newline (s ++ newline :: t) = s.splitOn newline ++ completeLines newline t := by
  rw [completeLines, List.splitOn_append_cons_self, List.dropLast_append_of_ne_nil, completeLines]
  exact List.splitOn_ne_nil newline t

theorem lines_append_cons [ReflBEq α] (newline : α) (s t : List α) :
    lines newline (s ++ newline :: t) = s.splitOn newline ++ lines newline t := by
  have ht := List.splitOn_ne_nil newline t
  unfold lines
  rw [completeLines_append_cons, List.splitOn_append_cons_self]
  simp only [List.getLastD_eq_getLast?, List.getLast?_append, List.getLast?_eq_some_getLast ht,
    Option.some_or, Option.getD_some]
  split <;> rfl

/-- The pieces of a message between its newlines, as a terminal shows them. -/
def messageLines (s : String) : List String := (s.toList.splitOn '\n').map .ofList

end ColorCube
