import ColorCube.Converter
import ColorCube.Proofs.Streams

/-!
# The order of a grid

A walk of a cube lists its positions by rank. So the records that are written for a cube are those of the
colors it was built from, taken at the ranks that an order looks up while the three coordinates run in
ascending lexicographic order.
-/

namespace ColorCube

/-- An entry of a list of blocks of one length is found by its block and its place there. -/
theorem getElem?_flatMap_block {α β : Type} (xs : List α) (f : α → List β) {m : Nat}
    (h : ∀ x ∈ xs, (f x).length = m) (b k : Nat) (hk : k < m) :
    (xs.flatMap f)[b * m + k]? = (xs[b]?).bind fun x => (f x)[k]? := by
  induction xs generalizing b with
  | nil => simp
  | cons x rest ih =>
    have hx := h x List.mem_cons_self
    have hrest : ∀ y ∈ rest, (f y).length = m := fun y hy => h y (List.mem_cons_of_mem x hy)
    rw [List.flatMap_cons]
    cases b with
    | zero =>
      rw [List.getElem?_append_left (by omega)]
      simp
    | succ b =>
      have hle : (f x).length ≤ (b + 1) * m + k := by rw [Nat.succ_mul]; omega
      have he : (b + 1) * m + k - (f x).length = b * m + k := by rw [Nat.succ_mul]; omega
      rw [List.getElem?_append_right hle, he, ih hrest, List.getElem?_cons_succ]

theorem length_flatMap_block {α β : Type} (xs : List α) (f : α → List β) {m : Nat}
    (h : ∀ x ∈ xs, (f x).length = m) : (xs.flatMap f).length = xs.length * m := by
  induction xs with
  | nil => simp
  | cons x rest ih =>
    have hx := h x List.mem_cons_self
    have hrest := ih fun y hy => h y (List.mem_cons_of_mem x hy)
    rw [List.flatMap_cons, List.length_append, hx, hrest, List.length_cons, Nat.succ_mul, Nat.add_comm]

namespace Position

variable {side : Nat}

theorem rank_eq (p : Position side) : p.rank = p.i * side ^ 2 + p.j * side + p.k := by
  rw [rank, Nat.pow_two, Nat.mul_assoc]

@[simp] theorem length_all (side : Nat) : (all side).length = side ^ 3 := by
  have hinner : ∀ i : Fin side, ((List.finRange side).flatMap fun j =>
      (List.finRange side).map fun k => (⟨i, j, k⟩ : Position side)).length = side * side := by
    intro i
    rw [length_flatMap_block _ _ (m := side) (by simp), List.length_finRange]
  rw [all, length_flatMap_block _ _ (fun i _ => hinner i), List.length_finRange, Nat.pow_succ,
    Nat.pow_two, Nat.mul_comm]

/-- The columns along the first axis are numbered below the square of the side. -/
theorem column_lt (p : Position side) : p.j * side + p.k < side ^ 2 := calc
  p.j * side + p.k < (p.j + 1) * side := by rw [Nat.succ_mul]; omega
  _ ≤ side ^ 2 := by rw [Nat.pow_two]; exact Nat.mul_le_mul_right side p.j.isLt

/-- A position stands at its rank. -/
theorem getElem?_all_rank (p : Position side) : (all side)[p.rank]? = some p := by
  have hj : p.j * side + p.k < side * side := by
    rw [← Nat.pow_two]
    exact p.column_lt
  have hrank : p.rank = p.i * (side * side) + (p.j * side + p.k) := by
    rw [rank, Nat.mul_assoc, Nat.add_assoc]
  have hblock : ∀ i : Fin side, ((List.finRange side).flatMap fun j =>
      (List.finRange side).map fun k => (⟨i, j, k⟩ : Position side)).length = side * side := by
    intro i
    rw [length_flatMap_block _ _ (m := side) (by simp), List.length_finRange]
  rw [hrank, all, getElem?_flatMap_block _ _ (fun i _ => hblock i) _ _ hj]
  simp only [List.getElem?_eq_getElem, List.length_finRange, p.i.isLt, List.getElem_finRange,
    Option.bind_some]
  rw [getElem?_flatMap_block _ _ (m := side) (by simp) _ _ p.k.isLt]
  simp

/-- Every rank below the number of entries is that of a position. -/
theorem exists_rank_eq {n : Nat} (h : n < side ^ 3) : ∃ p : Position side, p.rank = n := by
  have hpos : 0 < side := by
    rcases Nat.eq_zero_or_pos side with rfl | hp
    · exact absurd h (Nat.not_lt_zero n)
    · exact hp
  have hn : n < side * (side * side) := by
    rwa [Nat.pow_succ, Nat.pow_two, Nat.mul_comm] at h
  have hi : n / side / side < side := Nat.div_lt_of_lt_mul (Nat.div_lt_of_lt_mul hn)
  have hj : n / side % side < side := Nat.mod_lt _ hpos
  refine ⟨⟨⟨n / side / side, hi⟩, ⟨n / side % side, hj⟩, ⟨n % side, Nat.mod_lt n hpos⟩⟩, ?_⟩
  calc n / side / side * side * side + n / side % side * side + n % side
    _ = (n / side / side * side + n / side % side) * side + n % side := by rw [Nat.add_mul]
    _ = n := by rw [Nat.div_add_mod', Nat.div_add_mod']

/-- Lists with an entry for every rank are the same when their entries are. -/
theorem ext_getElem?_rank {α : Type} {xs ys : List α} (hx : xs.length = side ^ 3) (hy : ys.length = side ^ 3)
    (h : ∀ p : Position side, xs[p.rank]? = ys[p.rank]?) : xs = ys := by
  apply List.ext_getElem?
  intro n
  rcases Nat.lt_or_ge n (side ^ 3) with hn | hn
  · obtain ⟨p, rfl⟩ := exists_rank_eq hn
    exact h p
  · rw [List.getElem?_eq_none (by rwa [hx]), List.getElem?_eq_none (by rwa [hy])]

/-- A list with an entry for every rank is what a walk finds in it. -/
theorem filterMap_all_rank {α : Type} {xs : List α} (h : xs.length = side ^ 3) :
    ((all side).filterMap fun p => xs[p.rank]?) = xs := by
  have hlt : ∀ p : Position side, p.rank < xs.length := fun p => h ▸ p.rank_lt
  have hf : (fun p : Position side => xs[p.rank]?) = fun p => some (xs.get ⟨p.rank, hlt p⟩) := by
    funext p
    exact List.getElem?_eq_getElem (hlt p)
  rw [hf, List.filterMap_eq_map']
  apply ext_getElem?_rank (by rw [List.length_map, length_all]) h
  intro p
  rw [List.getElem?_map, getElem?_all_rank, List.getElem?_eq_getElem (hlt p)]
  rfl

end Position

/-- Looking up twice leads back. -/
@[simp] theorem Traversal.lookup_lookup {side : Nat} (order : Traversal) (p : Position side) :
    order.lookup (order.lookup p) = p := by cases order <;> rfl

/-- The rank that an order looks up at the grid point `(i, j, k)`. -/
def Traversal.rankAt (order : Traversal) (side i j k : Nat) : Nat :=
  match order with
  | .rgb => i * side ^ 2 + j * side + k
  | .bgr => k * side ^ 2 + j * side + i

theorem Traversal.rank_lookup {side : Nat} (order : Traversal) (p : Position side) :
    (order.lookup p).rank = order.rankAt side p.i p.j p.k := by
  cases order <;> rw [Position.rank_eq] <;> rfl

/-- The records of the colors that an order looks up while the coordinates of a grid point run in
ascending lexicographic order. A point for which there is no color has no record. -/
def gridLines (order : Traversal) (side : Nat) (colors : List Color) : List (List Char) :=
  (List.range side).flatMap fun i => (List.range side).flatMap fun j =>
    (List.range side).filterMap fun k => (colors[order.rankAt side i j k]?).map Color.render

theorem gridLines_eq_filterMap (order : Traversal) (side : Nat) (colors : List Color) :
    gridLines order side colors =
      (Position.all side).filterMap fun p => (colors[(order.lookup p).rank]?).map Color.render := by
  have hr : List.range side = (List.finRange side).map Fin.val := by
    apply List.ext_getElem
    · simp
    · intro n h₁ h₂
      simp
  simp only [gridLines, Position.all, hr, List.flatMap_map, List.filterMap_map,
    List.filterMap_flatMap, Traversal.rank_lookup]
  rfl

/-- With a color for every rank there is a record at every position. -/
theorem gridLines_eq_map {order : Traversal} {side : Nat} {colors : List Color}
    (h : side ^ 3 ≤ colors.length) :
    gridLines order side colors = (Position.all side).map fun p =>
      (colors.get ⟨(order.lookup p).rank, Nat.lt_of_lt_of_le (order.lookup p).rank_lt h⟩).render := by
  have hf : (fun p : Position side => (colors[(order.lookup p).rank]?).map Color.render) = fun p =>
      some (colors.get ⟨_, Nat.lt_of_lt_of_le (order.lookup p).rank_lt h⟩).render := by
    funext p
    rw [List.getElem?_eq_getElem (Nat.lt_of_lt_of_le (order.lookup p).rank_lt h), Option.map_some]
    rfl
  rw [gridLines_eq_filterMap, hf, List.filterMap_eq_map']

@[simp] theorem length_gridLines {order : Traversal} {side : Nat} {colors : List Color}
    (h : side ^ 3 ≤ colors.length) : (gridLines order side colors).length = side ^ 3 := by
  rw [gridLines_eq_map h, List.length_map, Position.length_all]

/-- With a color for every rank the record at a position is that of the color that is looked up there. -/
theorem getElem?_gridLines_rank (order : Traversal) {side : Nat} {colors : List Color}
    (h : side ^ 3 ≤ colors.length) (p : Position side) :
    (gridLines order side colors)[p.rank]? = (colors[(order.lookup p).rank]?).map Color.render := by
  rw [gridLines_eq_map h, List.getElem?_map, Position.getElem?_all_rank,
    List.getElem?_eq_getElem (Nat.lt_of_lt_of_le (order.lookup p).rank_lt h)]
  rfl

/-- Colors past the number of entries have no records. -/
theorem gridLines_append {order : Traversal} {side : Nat} {colors : List Color}
    (h : side ^ 3 ≤ colors.length) (surplus : List Color) :
    gridLines order side (colors ++ surplus) = gridLines order side colors := by
  rw [gridLines_eq_filterMap, gridLines_eq_filterMap]
  congr 1
  funext p
  rw [List.getElem?_append_left (Nat.lt_of_lt_of_le (order.lookup p).rank_lt h)]

/-- The records of a grid are those of the colors up to the number of entries. -/
theorem mem_gridLines_iff {order : Traversal} {side : Nat} {colors : List Color} {line : List Char}
    (h : side ^ 3 ≤ colors.length) :
    line ∈ gridLines order side colors ↔ ∃ c ∈ colors.take (side ^ 3), c.render = line := by
  rw [gridLines_eq_filterMap, List.mem_filterMap]
  constructor
  · rintro ⟨p, hp, he⟩
    obtain ⟨c, hc, rfl⟩ := Option.map_eq_some_iff.mp he
    refine ⟨c, List.mem_of_getElem? (i := (order.lookup p).rank) ?_, rfl⟩
    rw [List.getElem?_take_of_lt (order.lookup p).rank_lt, hc]
  · rintro ⟨c, hc, rfl⟩
    obtain ⟨n, hn⟩ := List.mem_iff_getElem?.mp hc
    have hlt : n < side ^ 3 := by
      have hl := (List.getElem?_eq_some_iff.mp hn).1
      rw [List.length_take] at hl
      omega
    rw [List.getElem?_take_of_lt hlt] at hn
    obtain ⟨p, rfl⟩ := Position.exists_rank_eq hlt
    refine ⟨order.lookup p, List.mem_of_getElem? (Position.getElem?_all_rank _), ?_⟩
    rw [Traversal.lookup_lookup, hn, Option.map_some]

theorem lt_countBound_iff {n : Nat} : n < countBound ↔ n ≤ 2 ^ 64 - 1 := by
  rw [countBound]
  omega

namespace Cube

theorem ofSequence_of_invalid {s : Sequence} {side : Nat}
    (h : ¬ (0 < side ∧ side ^ 3 < countBound)) : ofSequence s side = .error (.invalidSide side) := by
  rw [ofSequence, dif_neg h]

theorem ofSequence_of_short {s : Sequence} {side : Nat} (h : 0 < side ∧ side ^ 3 < countBound)
    (hs : s.size < side ^ 3) :
    ofSequence s side = .error (.insufficientData (side ^ 3) s.size) := by
  rw [ofSequence, dif_pos h, dif_neg (Nat.not_le.mpr hs)]

/-- With a valid side and enough entries there is a cube, and a walk of it shows the grid. -/
theorem exists_ofSequence {s : Sequence} {side : Nat} (h : 0 < side ∧ side ^ 3 < countBound)
    (hs : side ^ 3 ≤ s.size) :
    ∃ c, ofSequence s side = .ok c ∧
      ∀ order, (c.traverse order).map Color.render = gridLines order side s.toList := by
  rw [ofSequence, dif_pos h, dif_pos hs]
  refine ⟨_, rfl, ?_⟩
  intro order
  have hl : side ^ 3 ≤ s.toList.length := by simpa using hs
  rw [gridLines_eq_map hl, traverse, List.map_map]
  apply List.map_congr_left
  intro p hp
  simp [entry]

theorem effect_build {σ : Type} (s : Sequence) (side : Nat) (st : σ) :
    Job.effect (build s side) st = (ofSequence s side, st) := by
  unfold build
  cases ofSequence s side with
  | error e => rfl
  | ok c => by_cases h : c.size < s.size <;> simp [Job.effect_bind, h]

end Cube

end ColorCube
