import ColorCube.Cube
import ColorCube.Stream

/-!
# Probing

A probe writes the entries of a sequence that share their two last cube coordinates, each behind its
index. The sequence may be too short for a cube, or too long.
-/

namespace ColorCube

/-- The line of a probe for an entry. -/
def probeLine : Nat × Color → List Char
  | (n, c) => digits n ++ ' ' :: c.render

/-- The distance between probed entries: the square of the side. -/
def probeStride (side : Nat) : Except Failure Nat :=
  if 0 < side * side ∧ side * side < countBound then .ok (side * side)
  else .error (.invalidSide side)

/-- The entries that a probe from an offset on shows. -/
def probeEntries (s : Sequence) (offset side : Nat) : Except Failure (List (Nat × Color)) :=
  match probeStride side with
  | .error e => .error e
  | .ok stride =>
    if offset < stride then .ok (s.strided offset stride)
    else .error (.invalidProbeOffset offset stride)

/-- Writes a probe, and answers how many lines it has. -/
def writeProbe (s : Sequence) (offset side : Nat) : Job Sink Nat :=
  match probeEntries s offset side with
  | .error e => .fail e
  | .ok es => Sink.writeLines (es.map probeLine)

section

variable {s : Sequence} {offset side : Nat}

theorem probeStride_of_lt (hs : 0 < side) (h : side ^ 2 < countBound) :
    probeStride side = .ok (side ^ 2) := by
  rw [Nat.pow_two] at h ⊢
  rw [probeStride, if_pos ⟨Nat.mul_pos hs hs, h⟩]

theorem probeStride_of_invalid (h : side = 0 ∨ countBound ≤ side ^ 2) :
    probeStride side = .error (.invalidSide side) := by
  rw [probeStride, if_neg]
  rw [← Nat.pow_two]
  rintro ⟨hpos, hlt⟩
  rcases h with rfl | h
  · exact Nat.lt_irrefl 0 hpos
  · exact Nat.not_lt.mpr h hlt

theorem writeProbe_of_invalid (h : side = 0 ∨ countBound ≤ side ^ 2) :
    writeProbe s offset side = .fail (.invalidSide side) := by
  simp only [writeProbe, probeEntries, probeStride_of_invalid h]

theorem writeProbe_of_past (hs : 0 < side) (h : side ^ 2 < countBound) (ho : side ^ 2 ≤ offset) :
    writeProbe s offset side = .fail (.invalidProbeOffset offset (side ^ 2)) := by
  simp only [writeProbe, probeEntries, probeStride_of_lt hs h, if_neg (Nat.not_lt.mpr ho)]

theorem writeProbe_of_lt (hs : 0 < side) (h : side ^ 2 < countBound) (ho : offset < side ^ 2) :
    writeProbe s offset side = Sink.writeLines ((s.strided offset (side ^ 2)).map probeLine) := by
  simp only [writeProbe, probeEntries, probeStride_of_lt hs h, if_pos ho]

end

end ColorCube
