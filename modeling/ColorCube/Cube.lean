import ColorCube.Job
import ColorCube.Sequence

/-!
# Cubes

A cube has `side` entries along each of three axes. Entry `(i, j, k)` is the one at rank
`i * side ^ 2 + j * side + k` of the sequence that the cube is built from; entries past the last rank are
left out. Counts are 64-bit numbers, so a side whose third power is none makes no cube.
-/

namespace ColorCube

/-- Counts of entries are below this. -/
def countBound : Nat := 2 ^ 64

structure Position (side : Nat) where
  i : Fin side
  j : Fin side
  k : Fin side
  deriving DecidableEq, Repr

namespace Position

variable {side : Nat}

/-- The place of a position when the last axis runs fastest. -/
def rank (p : Position side) : Nat := p.i * side * side + p.j * side + p.k

theorem rank_lt (p : Position side) : p.rank < side ^ 3 := by
  have hk : p.j * side + p.k < side * side := calc
    p.j * side + p.k < (p.j + 1) * side := by rw [Nat.succ_mul]; omega
    _ ≤ side * side := Nat.mul_le_mul_right side p.j.isLt
  calc p.rank = p.i * (side * side) + (p.j * side + p.k) := by
        rw [rank, Nat.mul_assoc, Nat.add_assoc]
    _ < (p.i + 1) * (side * side) := by rw [Nat.succ_mul]; omega
    _ ≤ side * (side * side) := Nat.mul_le_mul_right _ p.i.isLt
    _ = side ^ 3 := by rw [Nat.pow_succ, Nat.pow_two, Nat.mul_comm]

/-- The position with the first and the last axis exchanged. -/
def swap (p : Position side) : Position side := ⟨p.k, p.j, p.i⟩

@[simp] theorem swap_swap (p : Position side) : p.swap.swap = p := rfl

/-- All positions, the last axis running fastest. -/
def all (side : Nat) : List (Position side) :=
  (List.finRange side).flatMap fun i => (List.finRange side).flatMap fun j =>
    (List.finRange side).map fun k => ⟨i, j, k⟩

end Position

/-- The position that an order looks up where a walk of the cube stands. -/
def Traversal.lookup {side : Nat} : Traversal → Position side → Position side
  | .rgb, p => p
  | .bgr, p => p.swap

structure Cube where
  side : Nat
  entries : Array Color
  side_pos : 0 < side
  size_entries : entries.size = side ^ 3
  lt_countBound : side ^ 3 < countBound

namespace Cube

/-- The cube of the first `side ^ 3` entries. -/
def ofSequence (s : Sequence) (side : Nat) : Except Failure Cube :=
  if h : 0 < side ∧ side ^ 3 < countBound then
    if hs : side ^ 3 ≤ s.size then
      .ok ⟨side, s.extract 0 (side ^ 3), h.1, by simp [Nat.min_eq_left hs], h.2⟩
    else .error (.insufficientData (side ^ 3) s.size)
  else .error (.invalidSide side)

def size (c : Cube) : Nat := c.entries.size

def isEmpty (c : Cube) : Bool := c.entries.isEmpty

theorem rank_lt_size (c : Cube) (p : Position c.side) : p.rank < c.entries.size :=
  c.size_entries ▸ p.rank_lt

def entry (c : Cube) (p : Position c.side) : Color :=
  have := c.rank_lt_size p
  c.entries[p.rank]

/-- The entry at given coordinates, if they are all below the side. -/
def get? (c : Cube) (i j k : Nat) : Option Color :=
  if h : i < c.side ∧ j < c.side ∧ k < c.side then
    some (c.entry ⟨⟨i, h.1⟩, ⟨j, h.2.1⟩, ⟨k, h.2.2⟩⟩)
  else none

/-- The entries in an order. -/
def traverse (c : Cube) (order : Traversal) : List Color :=
  (Position.all c.side).map fun p => c.entry (order.lookup p)

/-- Builds a cube, and notes how many entries were left out, if any were. -/
def build {σ : Type} (s : Sequence) (side : Nat) : Job σ Cube :=
  match ofSequence s side with
  | .error e => .fail e
  | .ok c => do
    if c.size < s.size then Job.log (.surplusIgnored (s.size - c.size) c.size side)
    Job.log (.cubeBuilt side)
    return c

end Cube

end ColorCube
