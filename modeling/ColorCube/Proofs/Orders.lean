import Mathlib.Data.List.Nodup
import ColorCube.Proofs.Ranks

/-!
# Orders of a walk

A walk in either order visits every position once. So both orders give the same colors, each in its own
arrangement, and the one that exchanges the axes leads back when it is taken twice.
-/

namespace ColorCube

namespace Position

variable {side : Nat}

/-- A walk lists the positions by rank. -/
theorem map_rank_all (side : Nat) : (all side).map rank = List.range (side ^ 3) := by
  apply ext_getElem?_rank (by rw [List.length_map, length_all]) List.length_range
  intro p
  rw [List.getElem?_map, getElem?_all_rank, List.getElem?_range p.rank_lt]
  rfl

theorem nodup_all (side : Nat) : (all side).Nodup := by
  apply List.Nodup.of_map rank
  rw [map_rank_all]
  exact List.nodup_range

theorem mem_all (p : Position side) : p ∈ all side := List.mem_of_getElem? p.getElem?_all_rank

end Position

namespace Traversal

variable {side : Nat}

theorem lookup_injective (order : Traversal) :
    Function.Injective fun p : Position side => order.lookup p := by
  intro p q h
  have hback := congrArg order.lookup h
  simpa only [lookup_lookup] using hback

/-- The positions that an order looks up, one after the other. -/
def visited (order : Traversal) (side : Nat) : List (Position side) := (Position.all side).map order.lookup

theorem nodup_visited (order : Traversal) (side : Nat) : (order.visited side).Nodup :=
  (Position.nodup_all side).map order.lookup_injective

theorem mem_visited (order : Traversal) (p : Position side) : p ∈ order.visited side := by
  rw [← order.lookup_lookup p]
  exact List.mem_map_of_mem (order.lookup p).mem_all

/-- No position is left out and none is visited twice. -/
theorem count_visited (order : Traversal) (p : Position side) : (order.visited side).count p = 1 :=
  List.count_eq_one_of_mem (order.nodup_visited side) (order.mem_visited p)

theorem visited_perm (order order' : Traversal) (side : Nat) :
    (order.visited side).Perm (order'.visited side) := by
  rw [List.perm_iff_count]
  intro p
  rw [count_visited, count_visited]

end Traversal

namespace Cube

variable {s : Sequence} {side : Nat} {cube : Cube}

theorem traverse_eq_map_visited (c : Cube) (order : Traversal) :
    c.traverse order = (order.visited c.side).map c.entry := by
  rw [Traversal.visited, List.map_map]
  rfl

@[simp] theorem length_traverse (c : Cube) (order : Traversal) :
    (c.traverse order).length = c.side ^ 3 := by
  rw [traverse, List.length_map, Position.length_all]

/-- The color at a rank is that of the position which is looked up there. -/
theorem getElem?_traverse_rank (c : Cube) (order : Traversal) (p : Position c.side) :
    (c.traverse order)[p.rank]? = some (c.entry (order.lookup p)) := by
  rw [traverse, List.getElem?_map, p.getElem?_all_rank]
  rfl

theorem get?_coordinates (c : Cube) (p : Position c.side) : c.get? p.i p.j p.k = some (c.entry p) := by
  rw [get?, dif_pos ⟨p.i.isLt, p.j.isLt, p.k.isLt⟩]

theorem traverse_rgb (c : Cube) : c.traverse .rgb = c.entries.toList := by
  have hlength : c.entries.toList.length = c.side ^ 3 := by
    rw [Array.length_toList, c.size_entries]
  apply Position.ext_getElem?_rank (c.length_traverse .rgb) hlength
  intro p
  rw [getElem?_traverse_rank, Array.getElem?_toList, getElem?_entries_rank]
  rfl

theorem entries_of_ofSequence (h : ofSequence s side = .ok cube) :
    cube.entries.toList = s.toList.take (side ^ 3) := by
  obtain ⟨hside, hsize⟩ := bounds_of_ofSequence h
  rw [ofSequence, dif_pos hside, dif_pos hsize] at h
  cases h
  simp

/-- The cube whose entries are those of another one in an order. Both have the same positions. -/
abbrev reordered (c : Cube) (order : Traversal) : Cube where
  side := c.side
  entries := (c.traverse order).toArray
  side_pos := c.side_pos
  size_entries := by simp
  lt_countBound := c.lt_countBound

theorem ofSequence_traverse (c : Cube) (order : Traversal) :
    ofSequence (c.traverse order).toArray c.side = .ok (c.reordered order) := by
  have hsize : (c.traverse order).toArray.size = c.side ^ 3 := (c.reordered order).size_entries
  have hall : (c.traverse order).toArray.extract 0 (c.side ^ 3) = (c.traverse order).toArray := by
    rw [← hsize]
    exact Array.extract_size
  rw [ofSequence, dif_pos ⟨c.side_pos, c.lt_countBound⟩, dif_pos (Nat.le_of_eq hsize.symm)]
  simp only [hall, reordered]

theorem entry_reordered (c : Cube) (order : Traversal) (p : Position c.side) :
    (c.reordered order).entry p = c.entry (order.lookup p) := by
  have hentry : (c.reordered order).entries[p.rank]? = some (c.entry (order.lookup p)) := by
    rw [reordered, List.getElem?_toArray, getElem?_traverse_rank]
  have hreordered := (c.reordered order).getElem?_entries_rank p
  rw [hentry] at hreordered
  exact (Option.some.inj hreordered).symm

/-- An order that is taken twice leads back to the order of the entries. -/
theorem traverse_reordered (c : Cube) (order : Traversal) :
    (c.reordered order).traverse order = c.traverse .rgb := by
  rw [traverse, traverse]
  apply List.map_congr_left
  intro p hp
  calc (c.reordered order).entry (order.lookup p)
    _ = c.entry (order.lookup (order.lookup p)) := c.entry_reordered order _
    _ = c.entry p := by rw [Traversal.lookup_lookup]

/-- The walks of a cube. In the order of the table they give the entries as they stand, and with the axes
exchanged the entry of `(k, j, i)` where `(i, j, k)` stands. Every position is visited once, so both give the
same colors. A cube of the exchanged entries gives the first order back when its axes are exchanged again. -/
theorem traverse_both_orders (s : Sequence) (side : Nat) (cube : Cube) (h : ofSequence s side = .ok cube) :
    let first := s.toList.take (side ^ 3)
    cube.traverse .rgb = first ∧ first.length = side ^ 3 ∧
    (cube.traverse .bgr).length = side ^ 3 ∧
    (∀ i j k, i < side → j < side → k < side → ∃ color,
      (cube.traverse .bgr)[i * side ^ 2 + j * side + k]? = some color ∧ cube.get? k j i = some color) ∧
    (∀ order, cube.traverse order = (order.visited cube.side).map cube.entry ∧
      ∀ p, (order.visited cube.side).count p = 1) ∧
    (cube.traverse .bgr).Perm (cube.traverse .rgb) ∧
    ∃ swapped, ofSequence (cube.traverse .bgr).toArray side = .ok swapped ∧ swapped.traverse .bgr = first := by
  intro first
  obtain rfl : cube.side = side := (holds_of_ofSequence h).side_eq
  have hfirst : cube.traverse .rgb = first := cube.traverse_rgb.trans (entries_of_ofSequence h)
  refine ⟨hfirst, ?_, cube.length_traverse .bgr, ?_, ?_, ?_, cube.reordered .bgr,
    cube.ofSequence_traverse .bgr, (cube.traverse_reordered .bgr).trans hfirst⟩
  · rw [← hfirst, length_traverse]
  · intro i j k hi hj hk
    let p : Position cube.side := ⟨⟨i, hi⟩, ⟨j, hj⟩, ⟨k, hk⟩⟩
    refine ⟨cube.entry p.swap, ?_, cube.get?_coordinates p.swap⟩
    rw [← p.rank_eq]
    exact cube.getElem?_traverse_rank .bgr p
  · intro order
    exact ⟨cube.traverse_eq_map_visited order, order.count_visited⟩
  · rw [traverse_eq_map_visited, traverse_eq_map_visited]
    exact (Traversal.visited_perm .bgr .rgb cube.side).map cube.entry

/-- Nine colors again. With the axes exchanged the second place holds the fifth color, that of `(1, 0, 0)`, and
when they are exchanged twice the first eight colors are in order. -/
theorem traverse_both_orders_of_nine :
    let colors : Sequence := (Array.range 9).map fun n => ⟨.ofNat n, .ofNat 0, .ofNat 0⟩
    ∃ cube swapped color, ofSequence colors 2 = .ok cube ∧ (cube.traverse .bgr)[1]? = some color ∧
      cube.get? 1 0 0 = some color ∧ ofSequence (cube.traverse .bgr).toArray 2 = .ok swapped ∧
      swapped.traverse .bgr = colors.toList.take 8 := by
  intro colors
  obtain ⟨cube, h⟩ : ∃ cube, ofSequence colors 2 = .ok cube :=
    exists_ofSequence_iff.mpr ⟨by decide, by decide, by simp [colors]⟩
  obtain ⟨-, -, -, hplace, -, -, swapped, hswapped, hback⟩ := traverse_both_orders colors 2 cube h
  obtain ⟨color, hcolor, hget⟩ := hplace 0 0 1 (by decide) (by decide) (by decide)
  exact ⟨cube, swapped, color, h, hcolor, hget, hswapped, hback⟩

end Cube

end ColorCube
