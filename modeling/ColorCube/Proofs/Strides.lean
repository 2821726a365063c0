import Mathlib.Data.List.Nodup
import Mathlib.Data.Nat.ModEq
import ColorCube.Proofs.Columns
import ColorCube.Proofs.Ranks

/-!
# Strides

The entries of a stride are those from an offset on whose distance to it is a multiple of the stride. A walk
that passes over entries and counts them finds the same ones, and its counts stay below the size. The strides of
one length from all offsets below it share the entries out between them.
-/

namespace ColorCube.Sequence

def numbered (s : Sequence) : List (Nat × Color) := s.toList.zipIdx.map Prod.swap

/-- What a walk finds with some entries behind it and the others ahead. It passes over so many of those, takes
the next one, and from then on passes over `gap` of them each time. The index of an entry that is taken is a
count, and so is the number of entries behind the walk after it; it fails when one of these is too large. -/
def walkByCounts (gap behind passed : Nat) (ahead : List Color) : Option (List (Nat × Color)) :=
  if h : passed < ahead.length then do
    let index ← count? (behind + passed)
    let next ← count? (index + 1)
    let others ← walkByCounts gap next gap (ahead.drop (passed + 1))
    return (index, ahead[passed]) :: others
  else some []
termination_by ahead.length
decreasing_by
  rw [List.length_drop]
  omega

def stridedByCounts (s : Sequence) (offset stride : Nat) : Option (List (Nat × Color)) :=
  walkByCounts (max stride 1 - 1) 0 offset s.toList

variable {s : Sequence} {offset stride : Nat}

theorem mem_numbered_iff {n : Nat} {c : Color} : (n, c) ∈ s.numbered ↔ s[n]? = some c := by
  rw [numbered, ← Array.getElem?_toList]
  constructor
  · intro h
    obtain ⟨e, he, heq⟩ := List.mem_map.mp h
    obtain ⟨rfl, rfl⟩ := Prod.mk.inj heq
    exact List.mem_zipIdx_iff_getElem?.mp he
  · intro h
    exact List.mem_map.mpr ⟨(c, n), List.mem_zipIdx_iff_getElem?.mpr h, rfl⟩

theorem pairwise_numbered (s : Sequence) : s.numbered.Pairwise fun a b => a.1 < b.1 := by
  have h : (s.toList.zipIdx.map Prod.snd).Pairwise (· < ·) := by
    rw [List.zipIdx_map_snd]
    exact List.pairwise_lt_range' 1
  rw [numbered, List.pairwise_map]
  exact List.pairwise_map.mp h

theorem nodup_of_pairwise {es : List (Nat × Color)} (h : es.Pairwise fun a b => a.1 < b.1) : es.Nodup :=
  h.imp fun hlt he => absurd (congrArg Prod.fst he) (Nat.ne_of_lt hlt)

/-- Lists by increasing index are equal if they have the same entries. -/
theorem eq_of_pairwise {es fs : List (Nat × Color)} (he : es.Pairwise fun a b => a.1 < b.1)
    (hf : fs.Pairwise fun a b => a.1 < b.1) (h : ∀ e, e ∈ es ↔ e ∈ fs) : es = fs := by
  have hperm := (List.perm_ext_iff_of_nodup (nodup_of_pairwise he) (nodup_of_pairwise hf)).mpr h
  exact hperm.eq_of_pairwise (fun a b _ _ hab hba => absurd hab (Nat.lt_asymm hba)) he hf

/-- A stride of zero counts as one. -/
theorem strided_max (s : Sequence) (offset stride : Nat) :
    s.strided offset (max stride 1) = s.strided offset stride := by
  simp only [strided, stridedIndices, max_assoc, max_self]

theorem strided_of_le (h : s.size ≤ offset) : s.strided offset stride = [] := by
  rw [← strided_max]
  apply List.ext_getElem?
  intro i
  rw [getElem?_strided s offset (Nat.le_max_right stride 1), Array.getElem?_eq_none (by omega)]
  rfl

theorem strided_of_lt (h : offset < s.size) :
    s.strided offset stride = (offset, s[offset]) :: s.strided (offset + max stride 1) stride := by
  have hstep : 0 < max stride 1 := Nat.le_max_right stride 1
  rw [← strided_max, ← strided_max s (offset + max stride 1)]
  apply List.ext_getElem?
  intro i
  rw [getElem?_strided s offset hstep]
  cases i with
  | zero => simp [h]
  | succ i =>
    have hplace : offset + (i + 1) * max stride 1 = offset + max stride 1 + i * max stride 1 := by
      rw [Nat.succ_mul]
      omega
    rw [List.getElem?_cons_succ, getElem?_strided s _ hstep, hplace]

/-- Induction along a stride: its offset is past the end, or else it goes on a step further. -/
theorem induction_on_stride {P : Nat → Prop} (s : Sequence) (stride offset : Nat)
    (past : ∀ offset, s.size ≤ offset → P offset)
    (step : ∀ offset, offset < s.size → P (offset + max stride 1) → P offset) : P offset := by
  induction hleft : s.size - offset using Nat.strong_induction_on generalizing offset with
  | _ left ih =>
    by_cases h : offset < s.size
    · exact step offset h (ih _ (by omega) _ rfl)
    · exact past offset (Nat.not_lt.mp h)

/-- The entries of a stride are those at a multiple of it from its offset. -/
theorem mem_strided_iff {n : Nat} {c : Color} :
    (n, c) ∈ s.strided offset stride ↔
      s[n]? = some c ∧ offset ≤ n ∧ max stride 1 ∣ n - offset := by
  have hstep : 0 < max stride 1 := Nat.le_max_right stride 1
  rw [← strided_max, List.mem_iff_getElem?]
  constructor
  · rintro ⟨i, hi⟩
    rw [getElem?_strided s offset hstep] at hi
    obtain ⟨c', hc, he⟩ := Option.map_eq_some_iff.mp hi
    obtain ⟨rfl, rfl⟩ := Prod.mk.inj he
    refine ⟨hc, Nat.le_add_right _ _, ?_⟩
    rw [Nat.add_sub_cancel_left]
    exact Nat.dvd_mul_left _ i
  · rintro ⟨hc, hle, i, hi⟩
    have hplace : offset + i * max stride 1 = n := by
      rw [Nat.mul_comm, ← hi]
      exact Nat.add_sub_of_le hle
    exact ⟨i, by rw [getElem?_strided s offset hstep, hplace, hc]; rfl⟩

theorem pairwise_strided (s : Sequence) (offset stride : Nat) :
    (s.strided offset stride).Pairwise fun a b => a.1 < b.1 := by
  induction offset using induction_on_stride s stride with
  | past offset h => simp [strided_of_le h]
  | step offset h ih =>
    rw [strided_of_lt h, List.pairwise_cons]
    refine ⟨?_, ih⟩
    rintro ⟨n, c⟩ he
    have hle := (mem_strided_iff.mp he).2.1
    dsimp only
    omega

/-- The entries of a stride are as many as the rest of the sequence is long, over the stride and rounded up. -/
theorem length_strided (s : Sequence) (offset stride : Nat) :
    (s.strided offset stride).length =
      if s.size ≤ offset then 0 else (s.size - offset - 1) / max stride 1 + 1 := by
  have hstep : 0 < max stride 1 := Nat.le_max_right stride 1
  induction offset using induction_on_stride s stride with
  | past offset h => rw [strided_of_le h, if_pos h, List.length_nil]
  | step offset h ih =>
    rw [strided_of_lt h, List.length_cons, ih, if_neg (Nat.not_le.mpr h)]
    congr 1
    by_cases hlast : s.size ≤ offset + max stride 1
    · rw [if_pos hlast, Nat.div_eq_of_lt (by omega)]
    · have hrest : s.size - offset - 1 = s.size - (offset + max stride 1) - 1 + max stride 1 := by omega
      rw [if_neg hlast, hrest, Nat.add_div_right _ hstep]

/-- A walk that has come to some place finds the entries of the stride from there. -/
theorem walkByCounts_eq (hs : s.size < countBound) (gap behind passed : Nat) :
    walkByCounts gap behind passed (s.toList.drop behind) = some (s.strided (behind + passed) (gap + 1)) := by
  generalize hplace : behind + passed = offset
  induction offset using induction_on_stride s (gap + 1) generalizing behind passed with
  | past offset h =>
    rw [walkByCounts, dif_neg, strided_of_le h]
    rw [List.length_drop, Array.length_toList]
    omega
  | step offset h ih =>
    have hahead : passed < (s.toList.drop behind).length := by
      rw [List.length_drop, Array.length_toList]
      omega
    have hdrop : (s.toList.drop behind).drop (passed + 1) = s.toList.drop (offset + 1) := by
      rw [List.drop_drop]
      congr 1
      omega
    have hrest := ih (offset + 1) gap (by omega)
    have hindex : count? (behind + passed) = some offset := by
      rw [hplace]
      exact count?_of_lt (by omega)
    have hnext : count? (offset + 1) = some (offset + 1) := count?_of_lt (by omega)
    rw [walkByCounts, dif_pos hahead, hindex, hdrop, strided_of_lt h]
    simp [hnext, hrest, hplace]

/-- An index below the stride is the remainder of all that the stride takes from there. -/
theorem dvd_sub_iff_mod_eq {n : Nat} (h : offset < stride) :
    offset ≤ n ∧ stride ∣ n - offset ↔ n % stride = offset := by
  constructor
  · rintro ⟨hle, hdvd⟩
    have hmod : offset % stride = n % stride := (Nat.modEq_iff_dvd' hle).mpr hdvd
    rw [← hmod, Nat.mod_eq_of_lt h]
  · rintro rfl
    exact ⟨Nat.mod_le n stride, Nat.dvd_sub_mod n⟩

theorem mem_strided_iff_mod_eq (h : offset < stride) {n : Nat} {c : Color} :
    (n, c) ∈ s.strided offset stride ↔ s[n]? = some c ∧ n % stride = offset := by
  rw [mem_strided_iff, Nat.max_eq_left (Nat.one_le_of_lt h), dvd_sub_iff_mod_eq h]

/-- From an offset below it a stride takes the entries whose indices leave the offset as remainder. -/
theorem strided_eq_filter (s : Sequence) (h : offset < stride) :
    s.strided offset stride = s.numbered.filter fun e => e.1 % stride = offset := by
  apply eq_of_pairwise (pairwise_strided s offset stride) ((pairwise_numbered s).filter _)
  rintro ⟨n, c⟩
  rw [mem_strided_iff_mod_eq h, List.mem_filter, mem_numbered_iff, decide_eq_true_iff]

/-- The strides of one length hold every entry between them, and hold it once. -/
theorem flatMap_strided_perm (s : Sequence) {step : Nat} (h : 0 < step) :
    ((List.range step).flatMap fun a => s.strided a step).Perm s.numbered := by
  have hnodup : ((List.range step).flatMap fun a => s.strided a step).Nodup := by
    rw [List.nodup_flatMap]
    refine ⟨fun a _ => nodup_of_pairwise (pairwise_strided s a step), ?_⟩
    refine List.nodup_range.pairwise_of_forall_ne ?_
    rintro a ha b hb hab ⟨n, c⟩ hea heb
    rw [mem_strided_iff_mod_eq (List.mem_range.mp ha)] at hea
    rw [mem_strided_iff_mod_eq (List.mem_range.mp hb)] at heb
    exact hab (hea.2.symm.trans heb.2)
  rw [List.perm_ext_iff_of_nodup hnodup (nodup_of_pairwise (pairwise_numbered s))]
  rintro ⟨n, c⟩
  rw [List.mem_flatMap, mem_numbered_iff]
  constructor
  · rintro ⟨a, ha, he⟩
    exact ((mem_strided_iff_mod_eq (List.mem_range.mp ha)).mp he).1
  · intro hc
    have hlt : n % step < step := Nat.mod_lt n h
    exact ⟨n % step, List.mem_range.mpr hlt, (mem_strided_iff_mod_eq hlt).mpr ⟨hc, rfl⟩⟩

theorem map_fst_numbered (s : Sequence) : s.numbered.map Prod.fst = List.range s.size := by
  rw [numbered, List.map_map, List.range_eq_range', ← Array.length_toList, ← List.zipIdx_map_snd 0]
  rfl

/-- A stride takes the entries at a multiple of it from its offset, by increasing index; a stride of zero counts as
one. It can be found with counts, none of which is too large. The strides of one length from all offsets below it
have no index in common, and together they have every index once. -/
theorem strided_shares_out (s : Sequence) (offset stride : Nat) :
    (∀ n c, (n, c) ∈ s.strided offset stride ↔
      s[n]? = some c ∧ offset ≤ n ∧ max stride 1 ∣ n - offset) ∧
    (s.strided offset stride).Pairwise (fun a b => a.1 < b.1) ∧
    (s.size ≤ 2 ^ 64 - 1 → s.stridedByCounts offset stride = some (s.strided offset stride)) ∧
    ∀ step, 1 ≤ step →
      (∀ a b, a < step → b < step → a ≠ b →
        ∀ x ∈ s.strided a step, ∀ y ∈ s.strided b step, x.1 ≠ y.1) ∧
      ((List.range step).flatMap fun a => (s.strided a step).map Prod.fst).Perm (List.range s.size) := by
  refine ⟨fun n c => mem_strided_iff, pairwise_strided s offset stride, ?_, ?_⟩
  · intro hs
    have hgap : max stride 1 - 1 + 1 = max stride 1 := Nat.sub_add_cancel (Nat.le_max_right stride 1)
    have hwalk := walkByCounts_eq (lt_countBound_iff.mpr hs) (max stride 1 - 1) 0 offset
    rw [List.drop_zero, Nat.zero_add, hgap, strided_max] at hwalk
    exact hwalk
  · intro step hstep
    refine ⟨?_, ?_⟩
    · rintro a b ha hb hab ⟨m, c⟩ hx ⟨n, d⟩ hy heq
      rw [mem_strided_iff_mod_eq ha] at hx
      rw [mem_strided_iff_mod_eq hb] at hy
      exact hab (hx.2.symm.trans ((congrArg (· % step) heq).trans hy.2))
    · rw [← map_fst_numbered, ← List.map_flatMap]
      exact (flatMap_strided_perm s hstep).map Prod.fst

/-- Nine colors. The greatest stride and a stride of zero are walked with counts, and the three strides of three
have every index once. -/
theorem strided_shares_out_of_nine :
    let colors : Sequence := (Array.range 9).map fun n => ⟨.ofNat n, .ofNat 0, .ofNat 0⟩
    colors.stridedByCounts 3 (2 ^ 64 - 1) = some [(3, ⟨.ofNat 3, .ofNat 0, .ofNat 0⟩)] ∧
    (colors.stridedByCounts 7 0).map (·.map Prod.fst) = some [7, 8] ∧
    (∀ x ∈ colors.strided 0 3, ∀ y ∈ colors.strided 2 3, x.1 ≠ y.1) ∧
    ((List.range 3).flatMap fun a => (colors.strided a 3).map Prod.fst).Perm (List.range 9) := by
  intro colors
  have hnine : colors.size = 9 := by simp [colors]
  have hsize : colors.size ≤ 2 ^ 64 - 1 := by
    rw [hnine]
    decide
  obtain ⟨-, -, hgreatest, -⟩ := strided_shares_out colors 3 (2 ^ 64 - 1)
  obtain ⟨-, -, hzero, hshares⟩ := strided_shares_out colors 7 0
  obtain ⟨hdisjoint, hperm⟩ := hshares 3 (by decide)
  refine ⟨(hgreatest hsize).trans ?_, ?_, hdisjoint 0 2 (by decide) (by decide) (by decide), ?_⟩
  · decide +kernel
  · rw [hzero hsize]
    decide +kernel
  · rwa [hnine] at hperm

end ColorCube.Sequence
