import ColorCube.Proofs.Effects
import ColorCube.Stream

/-!
# Texts on streams

Writing lines is writing their text at once: a sink that fails has taken the text up to its limit, however
the text was cut into pieces.
-/

namespace ColorCube

namespace Sink

/-- The part of a text that a sink has room for. -/
def accepted (s : Sink) (text : List UInt8) : List UInt8 :=
  match s.limit with
  | none => text
  | some (room, _) => text.take room

/-- What goes wrong when a text is written and flushed: the text is too long for the sink, or else the
flush fails. -/
def fault? (s : Sink) (text : List UInt8) : Option Fault :=
  match s.limit with
  | none => s.flushFault
  | some (room, fault) => if room < text.length then some fault else s.flushFault

/-- The text of some lines. -/
def textOf (ls : List (List Char)) : List UInt8 := ls.flatMap lineBytes

@[simp] theorem written_write (s : Sink) (text : List UInt8) :
    (s.write text).1.written = s.written ++ s.accepted text := by
  unfold write accepted
  cases s.limit with
  | none => simp [written]
  | some l =>
    obtain ⟨room, fault⟩ := l
    by_cases h : text.length ≤ room
    · simp [written, h, List.take_of_length_le]
    · simp [written, h]

@[simp] theorem flushFault_write (s : Sink) (text : List UInt8) :
    (s.write text).1.flushFault = s.flushFault := by
  unfold write
  split
  · rfl
  · split <;> rfl

theorem write_nil (s : Sink) : s.write [] = (s, none) := by
  obtain ⟨taken, limit, flushFault⟩ := s
  cases limit <;> simp [write]

/-- A piece that fits is followed by the rest. -/
theorem write_append_of_none {s s' : Sink} {piece : List UInt8} (rest : List UInt8)
    (h : s.write piece = (s', none)) : s.write (piece ++ rest) = s'.write rest := by
  unfold write at h ⊢
  cases hl : s.limit with
  | none =>
    simp only [hl, Prod.mk.injEq, and_true] at h
    subst h
    simp
  | some l =>
    obtain ⟨room, fault⟩ := l
    simp only [hl] at h
    by_cases hp : piece.length ≤ room
    · simp only [hp, if_true, Prod.mk.injEq, and_true] at h
      subst h
      by_cases hr : rest.length ≤ room - piece.length
      · have hle : piece.length + rest.length ≤ room := by omega
        have hs : room - (piece.length + rest.length) = room - piece.length - rest.length := by omega
        simp [hr, hle, hs]
      · have hle : ¬ piece.length + rest.length ≤ room := by omega
        simp [hr, hle, List.take_append, List.take_of_length_le hp]
    · simp [hp] at h

/-- Nothing is taken past a piece that does not fit. -/
theorem write_append_of_some {s s' : Sink} {piece : List UInt8} {fault : Fault} (rest : List UInt8)
    (h : s.write piece = (s', some fault)) : s.write (piece ++ rest) = (s', some fault) := by
  unfold write at h ⊢
  cases hl : s.limit with
  | none => simp [hl] at h
  | some l =>
    obtain ⟨room, f⟩ := l
    simp only [hl] at h
    by_cases hp : piece.length ≤ room
    · simp [hp] at h
    · have hle : ¬ piece.length + rest.length ≤ room := by omega
      have ht : room - piece.length = 0 := by omega
      simp only [hp, if_false] at h
      simp only [List.length_append, hle, if_false, List.take_append, ht, List.take_zero,
        List.append_nil, h]

theorem writeAll_eq_write (s : Sink) (pieces : List (List UInt8)) :
    s.writeAll pieces = s.write pieces.flatten := by
  induction pieces generalizing s with
  | nil => rw [writeAll, List.flatten_nil, write_nil]
  | cons piece rest ih =>
    rw [writeAll, List.flatten_cons]
    cases hw : s.write piece with
    | mk s' fault =>
      cases fault with
      | none => simp only [ih, write_append_of_none rest.flatten hw]
      | some fault => simp only [write_append_of_some rest.flatten hw]

theorem fault?_eq_or (s : Sink) (text : List UInt8) :
    s.fault? text = (s.write text).2.or s.flushFault := by
  unfold fault? write
  cases s.limit with
  | none => rfl
  | some l =>
    obtain ⟨room, fault⟩ := l
    by_cases h : text.length ≤ room
    · simp [h, Nat.not_lt.mpr h]
    · simp [h, Nat.not_le.mp h]

/-- Writing lines takes their text, and answers their number unless there is a fault. -/
theorem effect_writeLines (ls : List (List Char)) (s : Sink) :
    Job.effect (writeLines ls) s =
      (match s.fault? (textOf ls) with
        | some fault => .error (.io fault)
        | none => .ok ls.length,
      (s.write (textOf ls)).1) := by
  have hw : s.writeAll (ls.map lineBytes) = s.write (textOf ls) := by
    rw [writeAll_eq_write, textOf, List.flatMap_def]
  have hs := flushFault_write s (textOf ls)
  rw [fault?_eq_or]
  simp only [Job.effect, writeLines, hw]
  cases h : s.write (textOf ls) with
  | mk s' fault =>
    rw [h] at hs
    change s'.flushFault = s.flushFault at hs
    cases fault with
    | some fault => rfl
    | none =>
      rw [← hs]
      cases hf : s'.flushFault <;> simp [hf]

end Sink

end ColorCube
