import Mathlib.Logic.Function.Basic
import ColorCube.Proofs.Stages

/-!
# Ranks as counts

Ranks are computed with counts, which are bounded. In a cube all ranks are counts, and so is every product and
sum on the way to one. Each rank is that of one position, so no entry is left out and none is asked for that is
not there.
-/

namespace ColorCube

/-- A number as a count, if it is small enough to be one. -/
def count? (n : Nat) : Option Nat := if n < countBound then some n else none

theorem count?_of_lt {n : Nat} (h : n < countBound) : count? n = some n := if_pos h

/-- The rank of given coordinates, where every product and every sum has to be a count. -/
def rank? (side i j k : Nat) : Option Nat := do
  let slabs ← count? (i * side)
  let slabStart ← count? (slabs * side)
  let rows ← count? (j * side)
  let rowStart ← count? (slabStart + rows)
  count? (rowStart + k)

/-- No number on the way to a rank is greater than the rank. -/
theorem rank?_of_lt {side i j k : Nat} (hside : 0 < side)
    (h : i * side * side + j * side + k < countBound) :
    rank? side i j k = some (i * side * side + j * side + k) := by
  have hslabs : i * side ≤ i * side * side := Nat.le_mul_of_pos_right (i * side) hside
  have h₁ : i * side < countBound := by omega
  have h₂ : i * side * side < countBound := by omega
  have h₃ : j * side < countBound := by omega
  have h₄ : i * side * side + j * side < countBound := by omega
  simp only [rank?, count?_of_lt h₁, count?_of_lt h₂, count?_of_lt h₃, count?_of_lt h₄, count?_of_lt h,
    Option.bind_eq_bind, Option.bind_some]

namespace Position

variable {side : Nat}

/-- The ranks of a cube that has a count of entries are counts. -/
theorem rank?_eq_some (p : Position side) (h : side ^ 3 < countBound) :
    rank? side p.i p.j p.k = some p.rank :=
  rank?_of_lt (Nat.zero_lt_of_lt p.i.isLt) (Nat.lt_trans p.rank_lt h)

theorem rank_injective : Function.Injective fun p : Position side => p.rank := by
  intro p q h
  have hp := p.getElem?_all_rank
  dsimp only at h
  rw [h, q.getElem?_all_rank] at hp
  exact (Option.some.inj hp).symm

/-- Positions and ranks below the number of entries correspond to each other. -/
theorem rank_bijective :
    Function.Bijective fun p : Position side => (⟨p.rank, p.rank_lt⟩ : Fin (side ^ 3)) := by
  constructor
  · intro p q h
    exact rank_injective (congrArg Fin.val h)
  · intro n
    obtain ⟨p, hp⟩ := exists_rank_eq n.isLt
    exact ⟨p, Fin.ext hp⟩

end Position

namespace Cube

variable {s : Sequence} {side : Nat}

/-- What `get?` answers, found with counts. It fails when a number on the way is none. -/
def getByCounts (c : Cube) (i j k : Nat) : Option (Option Color) :=
  if i < c.side ∧ j < c.side ∧ k < c.side then (rank? c.side i j k).map fun n => c.entries[n]?
  else some none

/-- What `traverse` answers, found with counts. It fails when a number on the way is none, and when an entry is
asked for that is not there. -/
def traverseByCounts (c : Cube) (order : Traversal) : Option (List Color) :=
  (Position.all c.side).mapM fun p =>
    let q := order.lookup p
    (rank? c.side q.i q.j q.k).bind fun n => c.entries[n]?

theorem getElem?_entries_rank (c : Cube) (p : Position c.side) : c.entries[p.rank]? = some (c.entry p) :=
  Array.getElem?_eq_getElem (c.rank_lt_size p)

theorem getByCounts_eq (c : Cube) (i j k : Nat) : c.getByCounts i j k = some (c.get? i j k) := by
  by_cases h : i < c.side ∧ j < c.side ∧ k < c.side
  · let p : Position c.side := ⟨⟨i, h.1⟩, ⟨j, h.2.1⟩, ⟨k, h.2.2⟩⟩
    have hrank : rank? c.side i j k = some p.rank := p.rank?_eq_some c.lt_countBound
    rw [getByCounts, if_pos h, hrank, Option.map_some, c.getElem?_entries_rank p, get?, dif_pos h]
  · rw [getByCounts, if_neg h, get?, dif_neg h]

theorem traverseByCounts_eq (c : Cube) (order : Traversal) :
    c.traverseByCounts order = some (c.traverse order) := by
  have hentry : (fun p : Position c.side => (rank? c.side (order.lookup p).i (order.lookup p).j
      (order.lookup p).k).bind fun n => c.entries[n]?) = fun p => pure (c.entry (order.lookup p)) := by
    funext p
    rw [(order.lookup p).rank?_eq_some c.lt_countBound, Option.bind_some, c.getElem?_entries_rank]
    rfl
  rw [traverseByCounts, traverse]
  simp only [hentry]
  exact List.mapM_pure

/-- A sequence makes a cube, or its side is refused, or else its length. -/
theorem ofSequence_cases (s : Sequence) (side : Nat) :
    (¬ (0 < side ∧ side ^ 3 < countBound) ∧ ofSequence s side = .error (.invalidSide side)) ∨
    ((0 < side ∧ side ^ 3 < countBound) ∧ s.size < side ^ 3 ∧
      ofSequence s side = .error (.insufficientData (side ^ 3) s.size)) ∨
    ((0 < side ∧ side ^ 3 < countBound) ∧ side ^ 3 ≤ s.size ∧ ∃ cube, ofSequence s side = .ok cube) := by
  by_cases hside : 0 < side ∧ side ^ 3 < countBound
  · by_cases hsize : side ^ 3 ≤ s.size
    · obtain ⟨cube, h, -⟩ := exists_ofSequence hside hsize
      exact Or.inr (Or.inr ⟨hside, hsize, cube, h⟩)
    · have hshort := Nat.not_le.mp hsize
      exact Or.inr (Or.inl ⟨hside, hshort, ofSequence_of_short hside hshort⟩)
  · exact Or.inl ⟨hside, ofSequence_of_invalid hside⟩

theorem ofSequence_eq_invalidSide_iff :
    ofSequence s side = .error (.invalidSide side) ↔ side = 0 ∨ 2 ^ 64 - 1 < side ^ 3 := by
  have hside : side = 0 ∨ 2 ^ 64 - 1 < side ^ 3 ↔ ¬ (0 < side ∧ side ^ 3 < countBound) := by
    rw [lt_countBound_iff]
    omega
  rw [hside]
  rcases ofSequence_cases s side with ⟨h, he⟩ | ⟨h, -, he⟩ | ⟨h, -, cube, he⟩
  · exact iff_of_true he h
  · rw [he]
    exact iff_of_false nofun (not_not.mpr h)
  · rw [he]
    exact iff_of_false nofun (not_not.mpr h)

theorem ofSequence_eq_insufficientData_iff :
    ofSequence s side = .error (.insufficientData (side ^ 3) s.size) ↔
      0 < side ∧ side ^ 3 ≤ 2 ^ 64 - 1 ∧ s.size < side ^ 3 := by
  rw [← lt_countBound_iff, ← and_assoc]
  rcases ofSequence_cases s side with ⟨h, he⟩ | ⟨h, hs, he⟩ | ⟨-, hs, cube, he⟩
  · rw [he]
    exact iff_of_false nofun fun hn => h hn.1
  · exact iff_of_true he ⟨h, hs⟩
  · rw [he]
    exact iff_of_false nofun fun hn => absurd hn.2 (Nat.not_lt.mpr hs)

theorem isEmpty_eq_false (c : Cube) : c.isEmpty = false := by
  have hpos : 0 < c.entries.size := by
    rw [c.size_entries]
    exact Nat.pow_pos c.side_pos
  rw [isEmpty, Array.isEmpty_eq_false_iff]
  exact Array.ne_empty_of_size_pos hpos

/-- What a sequence is made into: a cube of the side given, or a failure that names what is wrong. In a cube the
entries are those of the sequence at the ranks of their coordinates, and the ranks correspond to the positions.
No number on the way to an entry exceeds a count, and no entry is asked for that is not there. -/
theorem ofSequence_represents (s : Sequence) (side : Nat) :
    (ofSequence s side = .error (.invalidSide side) ↔ side = 0 ∨ 2 ^ 64 - 1 < side ^ 3) ∧
    (ofSequence s side = .error (.insufficientData (side ^ 3) s.size) ↔
      0 < side ∧ side ^ 3 ≤ 2 ^ 64 - 1 ∧ s.size < side ^ 3) ∧
    ((∃ cube, ofSequence s side = .ok cube) ↔
      0 < side ∧ side ^ 3 ≤ 2 ^ 64 - 1 ∧ side ^ 3 ≤ s.size) ∧
    ∀ cube, ofSequence s side = .ok cube →
      cube.side = side ∧ cube.size = side ^ 3 ∧ cube.isEmpty = false ∧
      (∀ i j k, i < side → j < side → k < side →
        ∃ color, s[i * side ^ 2 + j * side + k]? = some color ∧ cube.get? i j k = some color) ∧
      (∀ i j k, ¬ (i < side ∧ j < side ∧ k < side) → cube.get? i j k = none) ∧
      (∀ p : Position side, rank? side p.i p.j p.k = some (p.i * side ^ 2 + p.j * side + p.k) ∧
        p.rank = p.i * side ^ 2 + p.j * side + p.k) ∧
      Function.Bijective (fun p : Position side => (⟨p.rank, p.rank_lt⟩ : Fin (side ^ 3))) ∧
      (∀ i j k, cube.getByCounts i j k = some (cube.get? i j k)) ∧
      ∀ order, cube.traverseByCounts order = some (cube.traverse order) := by
  refine ⟨ofSequence_eq_invalidSide_iff, ofSequence_eq_insufficientData_iff, exists_ofSequence_iff, ?_⟩
  intro cube h
  have hholds := holds_of_ofSequence h
  have hbound : side ^ 3 < countBound := (bounds_of_ofSequence h).1.2
  refine ⟨hholds.side_eq, hholds.size_eq, cube.isEmpty_eq_false, hholds.entry_eq, ?_, ?_,
    Position.rank_bijective, cube.getByCounts_eq, cube.traverseByCounts_eq⟩
  · intro i j k hout
    rw [← hholds.side_eq] at hout
    exact dif_neg hout
  · intro p
    rw [← p.rank_eq]
    exact ⟨p.rank?_eq_some hbound, rfl⟩

/-- Nine colors make a cube of eight: its last entry is the eighth of them, the greatest count is no coordinate,
and a walk in either order goes through. -/
theorem ofSequence_represents_of_nine :
    let colors : Sequence := (Array.range 9).map fun n => ⟨.ofNat n, .ofNat 0, .ofNat 0⟩
    ∃ cube color, ofSequence colors 2 = .ok cube ∧ cube.size = 8 ∧ colors[7]? = some color ∧
      cube.get? 1 1 1 = some color ∧ cube.get? 0 0 (2 ^ 64 - 1) = none ∧
      rank? 2 1 1 1 = some 7 ∧ cube.traverseByCounts .bgr = some (cube.traverse .bgr) := by
  intro colors
  have hsize : colors.size = 9 := by simp [colors]
  obtain ⟨-, -, hcube, hall⟩ := ofSequence_represents colors 2
  obtain ⟨cube, h⟩ := hcube.mpr ⟨by decide, by decide, by rw [hsize]; decide⟩
  obtain ⟨-, hcount, -, hinside, houtside, hrank, -, -, hwalk⟩ := hall cube h
  obtain ⟨color, hcolor, hget⟩ := hinside 1 1 1 (by decide) (by decide) (by decide)
  exact ⟨cube, color, h, hcount, hcolor, hget, houtside _ _ _ (by decide), (hrank ⟨1, 1, 1⟩).1, hwalk .bgr⟩

end Cube

end ColorCube
