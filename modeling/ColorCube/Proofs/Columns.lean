import ColorCube.Proofs.Agreement
import ColorCube.Proofs.RecordText
import ColorCube.Proofs.Runs

/-!
# Columns

A probe shows the entries that are a fixed distance apart, each behind its index. In a table with an entry for
every position of a cube these are the columns along the first axis: all probes together show what a conversion
writes, entry by entry, and then what it leaves out.
-/

namespace ColorCube

theorem getElem?_filterMap_of_isSome {α β : Type} {f : α → Option β} {l : List α} (h : ∀ a ∈ l, (f a).isSome)
    (i : Nat) : (l.filterMap f)[i]? = (l[i]?).bind f := by
  induction l generalizing i with
  | nil => rfl
  | cons a rest ih =>
    obtain ⟨ha, hrest⟩ := List.forall_mem_cons.mp h
    obtain ⟨b, hb⟩ := Option.isSome_iff_exists.mp ha
    rw [List.filterMap_cons_some hb]
    cases i with
    | zero => exact hb.symm
    | succ i => exact ih hrest i

namespace Sequence

/-- The multiples of a step up to a size are as many as the size divided by the step, rounded up. -/
theorem lt_steps_iff {size offset step : Nat} (h : 0 < step) (i : Nat) :
    i < (size - offset + step - 1) / step ↔ offset + i * step < size := by
  rw [Nat.lt_iff_add_one_le, Nat.le_div_iff_mul_le h, Nat.succ_mul]
  omega

/-- The entries of a stride are those at its offset and then a stride further on each time. -/
theorem getElem?_strided (s : Sequence) (offset : Nat) {stride : Nat} (h : 0 < stride) (i : Nat) :
    (s.strided offset stride)[i]? = (s[offset + i * stride]?).map (offset + i * stride, ·) := by
  have hstep : max stride 1 = stride := Nat.max_eq_left h
  have hsome : ∀ n ∈ stridedIndices s.size offset stride, (s[n]?.map (n, ·)).isSome := by
    intro n hn
    simp only [stridedIndices, hstep, List.mem_map, List.mem_range, lt_steps_iff h] at hn
    obtain ⟨i, hi, rfl⟩ := hn
    rw [Array.getElem?_eq_getElem hi]
    rfl
  rw [strided, getElem?_filterMap_of_isSome hsome]
  simp only [stridedIndices, hstep, List.getElem?_map]
  by_cases hi : offset + i * stride < s.size
  · rw [List.getElem?_range ((lt_steps_iff h i).mpr hi)]
    rfl
  · rw [List.getElem?_eq_none, Array.getElem?_eq_none (Nat.not_lt.mp hi)]
    · rfl
    · rw [List.length_range]
      exact Nat.not_lt.mp (mt (lt_steps_iff h i).mp hi)

end Sequence

def numberedLine (n : Nat) (line : List UInt8) : List UInt8 := encodeUtf8 (digits n ++ [' ']) ++ line

theorem encodeUtf8_probeLine (n : Nat) (c : Color) :
    encodeUtf8 (probeLine (n, c)) = numberedLine n (encodeUtf8 c.render) := by
  rw [probeLine, numberedLine, ← encodeUtf8_append, List.append_assoc, List.singleton_append]

theorem plainText_digits (n : Nat) : PlainText (digits n) :=
  fun _ hc => IsNumeral.isPlain (Or.inl (isDigit_of_mem_digits hc))

theorem plainText_probeLine (e : Nat × Color) : PlainText (probeLine e) := by
  obtain ⟨n, c⟩ := e
  exact plainText_append.mpr ⟨plainText_digits n, plainText_cons.mpr ⟨by decide, c.plainText_render⟩⟩

/-- The number before a line ends at the first blank. -/
theorem numberedLine_inj {m n : Nat} {line line' : List UInt8}
    (h : numberedLine m line = numberedLine n line') : m = n ∧ line = line' := by
  have hblank : ∀ k, plainByte ' ' ∉ encodeUtf8 (digits k) := by
    intro k
    refine plainByte_notMem_encodeUtf8 (plainText_digits k) (by decide) fun hk => ?_
    exact absurd (isDigit_of_mem_digits hk) (by decide)
  have hcut : ∀ k l, numberedLine k l = encodeUtf8 (digits k) ++ plainByte ' ' :: l := by
    intro k l
    rw [numberedLine, encodeUtf8_append, List.append_assoc]
    rfl
  rw [hcut, hcut] at h
  -- The line may have blanks of its own, but the number is the first piece between blanks.
  have hsplit := congrArg (List.splitOn (plainByte ' ')) h
  rw [List.splitOn_append_cons_self, List.splitOn_append_cons_self, List.splitOn_eq_singleton (hblank m),
    List.splitOn_eq_singleton (hblank n), List.singleton_append, List.singleton_append] at hsplit
  have hdigits : encodeUtf8 (digits m) = encodeUtf8 (digits n) := (List.cons.inj hsplit).1
  have hnumber : m = n := by
    rw [← digitsValue_digits m, ← digitsValue_digits n, ← decodeUtf8_encodeUtf8 (digits m), hdigits,
      decodeUtf8_encodeUtf8]
  rw [hdigits] at h
  exact ⟨hnumber, (List.cons.inj (List.append_cancel_left h)).2⟩

/-- The entries of a column along the first axis are a square of the side apart. -/
theorem Position.rank_eq_column_add {side : Nat} (p : Position side) :
    p.rank = p.j * side + p.k + p.i * side ^ 2 := by
  rw [p.rank_eq]
  omega

theorem eq_of_add_mul_eq {m a b i j : Nat} (ha : a < m) (hb : b < m) (h : a + i * m = b + j * m) :
    a = b ∧ i = j := by
  have hmod := congrArg (· % m) h
  simp only [Nat.add_mul_mod_self_right, Nat.mod_eq_of_lt ha, Nat.mod_eq_of_lt hb] at hmod
  subst hmod
  exact ⟨rfl, Nat.eq_of_mul_eq_mul_right (Nat.zero_lt_of_lt ha) (Nat.add_left_cancel h)⟩

namespace Converter

variable (settings : Settings) {store : Store} {path : String} {bytes : List UInt8}

theorem getElem?_probeLines {side : Nat} (h : 0 < side) (offset : Nat) (colors : List Color) (i : Nat) :
    (probeLines side offset colors)[i]? =
      (colors[offset + i * side ^ 2]?).map fun c => probeLine (offset + i * side ^ 2, c) := by
  rw [probeLines, List.getElem?_map, Sequence.getElem?_strided _ offset (Nat.pow_pos h), Option.map_map,
    List.getElem?_toArray]
  rfl

theorem plainText_of_mem_probeLines {side offset : Nat} {colors : List Color} {l : List Char}
    (h : l ∈ probeLines side offset colors) : PlainText l := by
  obtain ⟨e, -, rfl⟩ := List.mem_map.mp h
  exact plainText_probeLine e

theorem getElem?_map_gridLines (order : Traversal) {side : Nat} {colors : List Color}
    (h : side ^ 3 ≤ colors.length) (p : Position side) :
    ((gridLines order side colors).map encodeUtf8)[p.rank]? =
      (colors[(order.lookup p).rank]?).map fun c => encodeUtf8 c.render := by
  rw [List.getElem?_map, getElem?_gridLines_rank order h, Option.map_map]
  rfl

theorem getElem?_map_probeLines {side : Nat} (h : 0 < side) (offset : Nat) (colors : List Color) (i : Nat) :
    ((probeLines side offset colors).map encodeUtf8)[i]? =
      (colors[offset + i * side ^ 2]?).map fun c =>
        numberedLine (offset + i * side ^ 2) (encodeUtf8 c.render) := by
  rw [List.getElem?_map, getElem?_probeLines h, Option.map_map]
  simp only [Function.comp_def, encodeUtf8_probeLine]

section

variable {side : Nat} {colors : List Color}

/-- The record of a grid point in both orders, and in the probe of its column. -/
theorem exists_record_of_point (h : side ^ 3 ≤ colors.length) (p : Position side) :
    ∃ record, ((gridLines .rgb side colors).map encodeUtf8)[p.rank]? = some record ∧
      ((gridLines .bgr side colors).map encodeUtf8)[p.swap.rank]? = some record ∧
      ((probeLines side (p.j * side + p.k) colors).map encodeUtf8)[p.i.val]? =
        some (numberedLine p.rank record) := by
  have hlt : p.rank < colors.length := Nat.lt_of_lt_of_le p.rank_lt h
  have hcolor : colors[p.rank]? = some colors[p.rank] := List.getElem?_eq_getElem hlt
  have hside : 0 < side := Nat.zero_lt_of_lt p.i.isLt
  refine ⟨encodeUtf8 colors[p.rank].render, ?_, ?_, ?_⟩
  · rw [getElem?_map_gridLines .rgb h, Traversal.lookup, hcolor]
    rfl
  · rw [getElem?_map_gridLines .bgr h, Traversal.lookup, Position.swap_swap, hcolor]
    rfl
  · rw [getElem?_map_probeLines hside, ← p.rank_eq_column_add, hcolor]
    rfl

/-- A numbered record is the line of one probe only, and there at one place only. -/
theorem existsUnique_place (h : side ^ 3 ≤ colors.length) {n : Nat} {record : List UInt8}
    (hn : ((gridLines .rgb side colors).map encodeUtf8)[n]? = some record) :
    ∃! place : Nat × Nat, place.1 < side ^ 2 ∧
      ((probeLines side place.1 colors).map encodeUtf8)[place.2]? = some (numberedLine n record) := by
  have hlt : n < side ^ 3 := by
    have hl := (List.getElem?_eq_some_iff.mp hn).1
    rwa [List.length_map, length_gridLines h] at hl
  obtain ⟨p, rfl⟩ := Position.exists_rank_eq hlt
  have hside : 0 < side := Nat.zero_lt_of_lt p.i.isLt
  obtain ⟨record', hrgb, -, hprobe⟩ := exists_record_of_point h p
  obtain rfl : record = record' := Option.some.inj (hn.symm.trans hrgb)
  refine ⟨(p.j * side + p.k, p.i), ⟨p.column_lt, hprobe⟩, ?_⟩
  rintro ⟨offset, i⟩ ⟨ho, hi⟩
  rw [getElem?_map_probeLines hside] at hi
  obtain ⟨c, -, hc⟩ := Option.map_eq_some_iff.mp hi
  -- The number alone tells the place, whatever the record.
  have hindex := (numberedLine_inj hc).1.trans p.rank_eq_column_add
  obtain ⟨rfl, rfl⟩ := eq_of_add_mul_eq ho p.column_lt hindex
  rfl

/-- Past the side a probe shows what a cube leaves out. -/
theorem exists_surplus_of_past_side (hside : 0 < side) {offset i : Nat} {line : List UInt8} (h : side ≤ i)
    (hline : ((probeLines side offset colors).map encodeUtf8)[i]? = some line) :
    ∃ n record, line = numberedLine n record ∧ side ^ 3 ≤ n ∧ n < colors.length := by
  rw [getElem?_map_probeLines hside] at hline
  obtain ⟨c, hc, rfl⟩ := Option.map_eq_some_iff.mp hline
  refine ⟨_, _, rfl, ?_, (List.getElem?_eq_some_iff.mp hc).1⟩
  calc side ^ 3 = side * side ^ 2 := Nat.pow_succ'
    _ ≤ i * side ^ 2 := Nat.mul_le_mul_right _ h
    _ ≤ offset + i * side ^ 2 := Nat.le_add_left _ _

end

/-- A probe of a file that can be read, at a valid offset. -/
theorem probeFile_of_opened (hs : 1 ≤ settings.side) (hf : settings.fullScale.isPositiveFinite)
    (hsquare : settings.side ^ 2 < countBound) (hopen : store.openSource path = .ok { bytes := bytes })
    {offset : Nat} (hoffset : offset < settings.side ^ 2) :
    let run := (standard settings).probeFile store path offset {}
    let ls := probeLines settings.side offset (acceptedColors settings.fullScale (lines newlineByte bytes))
    run.result = .ok ls.length ∧ lines newlineByte run.state.written = ls.map encodeUtf8 := by
  intro run ls
  have hsource : store.sourceAt path = { bytes := bytes } := by
    rw [Store.sourceAt, hopen]
  have hnone : firstCause (probingCauses settings store path offset) = none := by
    have hcause : store.openCause? .fail path = none := by
      simp only [Store.openCause?, hopen]
    rw [probingCauses, hcause, hsource, firstCause_append, firstCause_append,
      Settings.firstCause_causes hs hf]
    simp [Source.cause?, probeCauses, cause, Nat.not_le.mpr hsquare, Nat.not_le.mpr hoffset]
  have heffect := effect_probeFile settings store path offset {}
  rw [guarded_of_none _ _ hnone, hsource] at heffect
  have hlimit : ({} : Sink).limit = none := rfl
  obtain ⟨hresult, hwritten⟩ := Sink.taking_of_unfailing (Sink.textOf ls) ls.length hlimit rfl
  refine ⟨(congrArg Prod.fst heffect).trans hresult, ?_⟩
  have hstate : run.state.written = Sink.textOf ls :=
    (congrArg (fun r => r.2.written) heffect).trans hwritten
  rw [hstate]
  exact lines_textOf fun l hl => plainText_of_mem_probeLines hl

/-- The conversion of a file that can be read and has enough records. -/
theorem convertFile_of_enough (hs : 1 ≤ settings.side) (hf : settings.fullScale.isPositiveFinite)
    (hcube : settings.side ^ 3 ≤ 2 ^ 64 - 1) (hopen : store.openSource path = .ok { bytes := bytes })
    (henough : settings.side ^ 3 ≤ (acceptedColors settings.fullScale (lines newlineByte bytes)).length) :
    let run := (standard settings).convertFile store path {}
    let ls := gridLines settings.order settings.side
      (acceptedColors settings.fullScale (lines newlineByte bytes))
    run.result = .ok (summaryOf settings { bytes := bytes }) ∧
      lines newlineByte run.state.written = ls.map encodeUtf8 := by
  intro run ls
  have heffect := (standard settings).effect_convertFile_of_opened hopen {}
  obtain ⟨hresult, hwritten⟩ :=
    convert_of_enough settings { bytes := bytes } {} hs hcube hf henough rfl rfl rfl
  refine ⟨(congrArg Prod.fst heffect).trans hresult, ?_⟩
  have hstate : run.state.written = Sink.textOf ls :=
    (congrArg (fun r => r.2.written) heffect).trans hwritten
  rw [hstate]
  exact lines_textOf (plainText_gridLines settings.order settings.side _)

/-- All probes together show the records of a conversion, each at one place. The line of a probe for the grid
point `(i, j, k)` is the index of its record, a blank and the record. In the order of the table the record
stands at that index, and at the index of `(k, j, i)` when the axes are exchanged. Lines past these show records
that are left over. -/
theorem probes_show_conversion (settings : Settings) (store : Store) (path : String) (bytes : List UInt8)
    (hs : 1 ≤ settings.side) (hf : settings.fullScale.isPositiveFinite)
    (hcube : settings.side ^ 3 ≤ 2 ^ 64 - 1) (hopen : store.openSource path = .ok { bytes := bytes })
    (henough : settings.side ^ 3 ≤ (acceptedColors settings.fullScale (lines newlineByte bytes)).length) :
    let side := settings.side
    let records := (acceptedColors settings.fullScale (lines newlineByte bytes)).length
    let conversion (order : Traversal) :=
      ({ settings := { settings with order := order } } : Converter).convertFile store path {}
    let probe (offset : Nat) := ({ settings := settings } : Converter).probeFile store path offset {}
    let converted (order : Traversal) := lines newlineByte (conversion order).state.written
    let probed (offset : Nat) := lines newlineByte (probe offset).state.written
    (∀ order, ∃ summary, (conversion order).result = .ok summary ∧ summary.emitted = side ^ 3 ∧
      (converted order).length = side ^ 3) ∧
    (∀ offset < side ^ 2, (probe offset).result = .ok (probed offset).length) ∧
    (∀ i j k, i < side → j < side → k < side →
      let n := i * side ^ 2 + j * side + k
      ∃ record, (converted .rgb)[n]? = some record ∧
        (converted .bgr)[k * side ^ 2 + j * side + i]? = some record ∧
        (probed (j * side + k))[i]? = some (numberedLine n record)) ∧
    (∀ n record, (converted .rgb)[n]? = some record → ∃! place : Nat × Nat, place.1 < side ^ 2 ∧
      (probed place.1)[place.2]? = some (numberedLine n record)) ∧
    ∀ offset i line, offset < side ^ 2 → side ≤ i → (probed offset)[i]? = some line →
      ∃ n record, line = numberedLine n record ∧ side ^ 3 ≤ n ∧ n < records := by
  intro side records conversion probe converted probed
  let colors := acceptedColors settings.fullScale (lines newlineByte bytes)
  have hsquare : side ^ 2 < countBound := by
    have hle : side ^ 2 ≤ side ^ 3 := Nat.pow_le_pow_right hs (by decide)
    exact Nat.lt_of_le_of_lt (Nat.le_trans hle hcube) (by decide)
  have hconversion (order : Traversal) :=
    convertFile_of_enough { settings with order := order } hs hf hcube hopen henough
  have hconverted : ∀ order, converted order = (gridLines order side colors).map encodeUtf8 :=
    fun order => (hconversion order).2
  have hprobed : ∀ offset, offset < side ^ 2 →
      (probe offset).result = .ok (probeLines side offset colors).length ∧
        probed offset = (probeLines side offset colors).map encodeUtf8 :=
    fun _ h => probeFile_of_opened settings hs hf hsquare hopen h
  refine ⟨?_, ?_, ?_, ?_, ?_⟩
  · intro order
    refine ⟨_, (hconversion order).1, rfl, ?_⟩
    rw [hconverted, List.length_map, length_gridLines henough]
  · intro offset h
    rw [(hprobed offset h).2, List.length_map]
    exact (hprobed offset h).1
  · intro i j k hi hj hk n
    let p : Position side := ⟨⟨i, hi⟩, ⟨j, hj⟩, ⟨k, hk⟩⟩
    have hoffset : j * side + k < side ^ 2 := p.column_lt
    obtain ⟨record, hrgb, hbgr, hprobe⟩ := exists_record_of_point henough p
    rw [p.rank_eq] at hrgb hprobe
    rw [p.swap.rank_eq] at hbgr
    refine ⟨record, ?_, ?_, ?_⟩
    · rw [hconverted]
      exact hrgb
    · rw [hconverted]
      exact hbgr
    · rw [(hprobed _ hoffset).2]
      exact hprobe
  · intro n record hn
    rw [hconverted] at hn
    obtain ⟨place, ⟨hlt, hplace⟩, hunique⟩ := existsUnique_place henough hn
    refine ⟨place, ⟨hlt, ?_⟩, ?_⟩
    · rw [(hprobed _ hlt).2]
      exact hplace
    · rintro other ⟨ho, hother⟩
      rw [(hprobed _ ho).2] at hother
      exact hunique other ⟨ho, hother⟩
  · intro offset i line ho hi hline
    rw [(hprobed offset ho).2] at hline
    exact exists_surplus_of_past_side hs hi hline

/-- Nine records for a cube of eight. The one with index six is the second line of the third probe, and the
fourth record when the axes are exchanged. The third line of the first probe is the record left over. -/
theorem probes_show_conversion_of_nine :
    let settings : Settings := ⟨.ofNat 8, 2, .bgr, .empty⟩
    let bytes := encodeUtf8 "0 0 0\n1 0 0\n2 0 0\n3 0 0\n4 0 0\n5 0 0\n6 0 0\n7 0 0\n8 0 0".toList
    let store : Store := { nodes := [(["lut.txt"], .file bytes)] }
    let ordered (order : Traversal) : Converter := { settings := { settings with order := order } }
    let converted (order : Traversal) := lines newlineByte
      ((ordered order).convertFile store "lut.txt" {}).state.written
    let probed (offset : Nat) := lines newlineByte
      (({ settings := settings } : Converter).probeFile store "lut.txt" offset {}).state.written
    store.openSource "lut.txt" = .ok { bytes := bytes } ∧
    (∃ record, (converted .rgb)[6]? = some record ∧ (converted .bgr)[3]? = some record ∧
      (probed 2)[1]? = some (numberedLine 6 record)) ∧
    ∃ line n record, (probed 0)[2]? = some line ∧ line = numberedLine n record ∧ 8 ≤ n ∧ n < 9 := by
  intro settings bytes store ordered converted probed
  have hopen : store.openSource "lut.txt" = .ok { bytes := bytes } := rfl
  have hrecords : (acceptedColors settings.fullScale (lines newlineByte bytes)).length = 9 := by
    decide +kernel
  obtain ⟨-, -, hpoint, -, hsurplus⟩ := probes_show_conversion settings store "lut.txt" bytes (by decide)
    (by decide +kernel) (by decide) hopen (by rw [hrecords]; decide)
  obtain ⟨line, hline⟩ := Option.isSome_iff_exists.mp (show (probed 0)[2]?.isSome by decide +kernel)
  obtain ⟨n, record, he, hle, hlt⟩ := hsurplus 0 2 line (by decide) (by decide) hline
  rw [hrecords] at hlt
  exact ⟨hopen, hpoint 1 1 0 (by decide) (by decide) (by decide), line, n, record, hline, he, hle, hlt⟩

end Converter

end ColorCube
