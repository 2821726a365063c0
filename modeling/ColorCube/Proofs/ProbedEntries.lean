import ColorCube.Proofs.Strides

/-!
# Probed entries

A probe is refused for its side, and then for its offset, and nothing is written. Any other probe shows the
entries whose indices leave the offset as remainder when they are divided by the square of the side. It needs
neither a cube nor the entries for one.
-/

namespace ColorCube

/-- Writing lines fails only where the sink does. -/
theorem Sink.result_writeLines_ne {ls : List (List Char)} {sink : Sink} {e : Failure}
    (h : ∀ fault, e ≠ .io fault) : (writeLines ls sink).result ≠ .error e := by
  have hresult := congrArg Prod.fst (effect_writeLines ls sink)
  dsimp only [Job.effect] at hresult
  rw [hresult]
  cases sink.fault? (textOf ls) with
  | none => exact nofun
  | some fault => exact fun he => h fault (Except.error.inj he).symm

section

variable {s : Sequence} {offset side : Nat} {sink : Sink}

/-- The three ways in which a probe can go. -/
theorem writeProbe_cases (s : Sequence) (offset side : Nat) :
    ((side = 0 ∨ 2 ^ 64 - 1 < side ^ 2) ∧ writeProbe s offset side = .fail (.invalidSide side)) ∨
    ((0 < side ∧ side ^ 2 ≤ 2 ^ 64 - 1 ∧ side ^ 2 ≤ offset) ∧
      writeProbe s offset side = .fail (.invalidProbeOffset offset (side ^ 2))) ∨
    ((0 < side ∧ side ^ 2 ≤ 2 ^ 64 - 1 ∧ offset < side ^ 2) ∧
      writeProbe s offset side = Sink.writeLines ((s.strided offset (side ^ 2)).map probeLine)) := by
  rcases Nat.eq_zero_or_pos side with hs | hs
  · exact Or.inl ⟨Or.inl hs, writeProbe_of_invalid (Or.inl hs)⟩
  · rcases Nat.lt_or_ge (side ^ 2) countBound with hb | hb
    · have hle := lt_countBound_iff.mp hb
      rcases Nat.lt_or_ge offset (side ^ 2) with ho | ho
      · exact Or.inr (Or.inr ⟨⟨hs, hle, ho⟩, writeProbe_of_lt hs hb ho⟩)
      · exact Or.inr (Or.inl ⟨⟨hs, hle, ho⟩, writeProbe_of_past hs hb ho⟩)
    · have hlt : 2 ^ 64 - 1 < side ^ 2 := Nat.not_le.mp (mt lt_countBound_iff.mpr (Nat.not_lt.mpr hb))
      exact Or.inl ⟨Or.inr hlt, writeProbe_of_invalid (Or.inr hb)⟩

theorem result_writeProbe_eq_invalidSide_iff :
    (writeProbe s offset side sink).result = .error (.invalidSide side) ↔
      side = 0 ∨ 2 ^ 64 - 1 < side ^ 2 := by
  rcases writeProbe_cases s offset side with ⟨h, he⟩ | ⟨h, he⟩ | ⟨h, he⟩
  · rw [he]
    exact iff_of_true rfl h
  · rw [he]
    exact iff_of_false nofun (by omega)
  · rw [he]
    exact iff_of_false (Sink.result_writeLines_ne nofun) (by omega)

theorem result_writeProbe_eq_invalidProbeOffset_iff :
    (writeProbe s offset side sink).result = .error (.invalidProbeOffset offset (side ^ 2)) ↔
      0 < side ∧ side ^ 2 ≤ 2 ^ 64 - 1 ∧ side ^ 2 ≤ offset := by
  rcases writeProbe_cases s offset side with ⟨h, he⟩ | ⟨h, he⟩ | ⟨h, he⟩
  · rw [he]
    exact iff_of_false nofun (by omega)
  · rw [he]
    exact iff_of_true rfl h
  · rw [he]
    exact iff_of_false (Sink.result_writeLines_ne nofun) (by omega)

theorem state_writeProbe_of_refused (h : side = 0 ∨ 2 ^ 64 - 1 < side ^ 2 ∨ side ^ 2 ≤ offset) :
    (writeProbe s offset side sink).state = sink := by
  rcases writeProbe_cases s offset side with ⟨-, he⟩ | ⟨-, he⟩ | ⟨hv, -⟩
  · rw [he]
    rfl
  · rw [he]
    rfl
  · omega

end

/-- What a probe answers and writes. Its side is refused if the square is no count, then its offset if it is not
below the square, and then nothing is written. Otherwise there is a line for every entry whose index leaves the
offset as remainder, by increasing index, and the answer is their number. -/
theorem writeProbe_shows_remainder_class (s : Sequence) (offset side : Nat) (sink : Sink) :
    let square := side ^ 2
    let column := s.numbered.filter fun e => e.1 % square = offset
    let text := column.flatMap fun (n, c) => encodeUtf8 (digits n ++ ' ' :: c.render) ++ [newlineByte]
    let run := writeProbe s offset side sink
    (run.result = .error (.invalidSide side) ↔ side = 0 ∨ 2 ^ 64 - 1 < square) ∧
    (run.result = .error (.invalidProbeOffset offset square) ↔
      0 < side ∧ square ≤ 2 ^ 64 - 1 ∧ square ≤ offset) ∧
    (side = 0 ∨ 2 ^ 64 - 1 < square ∨ square ≤ offset → run.state = sink) ∧
    (0 < side → square ≤ 2 ^ 64 - 1 → offset < square → sink.flushFault = none →
      (∀ room fault, sink.limit = some (room, fault) → text.length ≤ room) →
      run.result = .ok column.length ∧ run.state.written = sink.written ++ text ∧
      column.length = if s.size ≤ offset then 0 else (s.size - offset - 1) / square + 1) := by
  intro square column text run
  refine ⟨result_writeProbe_eq_invalidSide_iff, result_writeProbe_eq_invalidProbeOffset_iff,
    state_writeProbe_of_refused, ?_⟩
  intro hside hsquare hoffset hflush hroom
  have hcolumn : s.strided offset square = column := Sequence.strided_eq_filter s hoffset
  have htext : Sink.textOf (column.map probeLine) = text := by
    rw [Sink.textOf, List.flatMap_map]
    rfl
  have heffect : Job.effect (writeProbe s offset side) sink = sink.taking text column.length := by
    rw [writeProbe_of_lt hside (lt_countBound_iff.mpr hsquare) hoffset, hcolumn,
      Sink.effect_writeLines_eq_taking, htext, List.length_map]
  obtain ⟨hresult, hwritten⟩ := Sink.taking_of_cause? column.length (Sink.cause?_eq_none hflush hroom)
  refine ⟨(congrArg Prod.fst heffect).trans hresult,
    (congrArg (fun r => r.2.written) heffect).trans hwritten, ?_⟩
  rw [← hcolumn, Sequence.length_strided, Nat.max_eq_left (Nat.one_le_of_lt hoffset)]

/-- Nine colors. The greatest offset for a side of two leaves the second line in the last, partial slab. A side
whose third power is no count has a probe too, and a sink with room for its one line takes it. -/
theorem writeProbe_shows_remainder_class_of_nine :
    let colors : Sequence := (Array.range 9).map fun n => ⟨.ofNat n, .ofNat 0, .ofNat 0⟩
    let line (n : String) : String :=
      n ++ " \t\x7b .red = " ++ n ++ ".000000, .green = 0.000000, .blue = 0.000000 \x7d,\n"
    let probe := writeProbe colors 3 2 {}
    let sink : Sink := { limit := some (61, .stream "full") }
    let wide := writeProbe colors 8 (2 ^ 22) sink
    probe.result = .ok 2 ∧ probe.state.written = encodeUtf8 (line "3" ++ line "7").toList ∧
    wide.result = .ok 1 ∧ wide.state.written = encodeUtf8 (line "8").toList ∧
    (writeProbe colors 4 2 sink).state = sink := by
  intro colors line probe sink wide
  have hnine : colors.size = 9 := by simp [colors]
  obtain ⟨-, -, -, hprobe⟩ := writeProbe_shows_remainder_class colors 3 2 {}
  obtain ⟨hresult, hwritten, hlength⟩ := hprobe (by decide) (by decide) (by decide) rfl nofun
  obtain ⟨-, -, -, hwide⟩ := writeProbe_shows_remainder_class colors 8 (2 ^ 22) sink
  obtain ⟨hone, hline, hcount⟩ := hwide (by decide) (by decide) (by decide) rfl (by
    rintro room fault hl
    obtain ⟨rfl, -⟩ := Prod.mk.inj (Option.some.inj hl)
    decide +kernel)
  obtain ⟨-, -, hrefused, -⟩ := writeProbe_shows_remainder_class colors 4 2 sink
  rw [hlength, hnine] at hresult
  rw [hcount, hnine] at hone
  refine ⟨hresult, hwritten.trans ?_, hone, hline.trans ?_, hrefused (by decide)⟩
  · decide +kernel
  · decide +kernel

end ColorCube
