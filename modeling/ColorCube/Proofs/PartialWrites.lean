import ColorCube.Proofs.Columns
import ColorCube.Proofs.Diagnosis

/-!
# Partial writes

A sink with a limit takes a text up to that limit, in whatever pieces the text comes and however the sink
divides them up. So what a writer leaves behind is always the beginning of its text, and the writer answers only
when that is all of the text and has been flushed.
-/

namespace ColorCube

namespace Sink

/-- Pieces written one after another to a sink that takes of each as much as it likes at a time, but something
while it has room. It fails when there is more to write and no room left. -/
inductive Takes : Sink → List (List UInt8) → Sink → Option Fault → Prop where
  | done (s : Sink) : Takes s [] s none
  | next {s t : Sink} {rest : List (List UInt8)} {fault : Option Fault} (h : Takes s rest t fault) :
      Takes s ([] :: rest) t fault
  | portion {s s' t : Sink} {taken left : List UInt8} {rest : List (List UInt8)} {fault : Option Fault}
      (hne : taken ≠ []) (hfits : s.write taken = (s', none)) (h : Takes s' (left :: rest) t fault) :
      Takes s ((taken ++ left) :: rest) t fault
  | full {s : Sink} {piece : List UInt8} {rest : List (List UInt8)} {fault : Fault} (hne : piece ≠ [])
      (hlimit : s.limit = some (0, fault)) : Takes s (piece :: rest) s (some fault)

theorem write_of_full {s : Sink} {text : List UInt8} {fault : Fault} (hne : text ≠ [])
    (hlimit : s.limit = some (0, fault)) : s.write text = (s, some fault) := by
  obtain ⟨taken, limit, flushFault⟩ := s
  cases hlimit
  simp [write, hne]

/-- The way in which a text is taken makes no difference to what is taken of it in the end. -/
theorem Takes.write_flatten {s t : Sink} {pieces : List (List UInt8)} {fault : Option Fault}
    (h : s.Takes pieces t fault) : s.write pieces.flatten = (t, fault) := by
  -- On the run: what follows a portion is written to the sink that has taken the portion.
  induction h with
  | done s => exact s.write_nil
  | next h ih => exact ih
  | portion hne hfits h ih =>
    rw [List.flatten_cons, List.append_assoc, write_append_of_none _ hfits]
    exact ih
  | @full s piece rest fault hne hlimit =>
    refine write_of_full ?_ hlimit
    rw [List.flatten_cons]
    exact List.append_ne_nil_of_left_ne_nil hne _

theorem limit_of_write_some {s s' : Sink} {text : List UInt8} {fault : Fault}
    (h : s.write text = (s', some fault)) : ∃ room, s.limit = some (room, fault) ∧ room < text.length := by
  unfold write at h
  cases hl : s.limit with
  | none => simp [hl] at h
  | some l =>
    obtain ⟨room, f⟩ := l
    by_cases hroom : text.length ≤ room
    · simp [hl, hroom] at h
    · simp only [hl, hroom, if_false, Prod.mk.injEq, Option.some.injEq] at h
      exact ⟨room, by rw [h.2], Nat.not_le.mp hroom⟩

/-- A piece that does not fit is taken as far as it does, and then there is no room for the rest of it. -/
theorem exists_takes_of_some {s : Sink} {room : Nat} {fault : Fault} {piece : List UInt8}
    (hlimit : s.limit = some (room, fault)) (h : room < piece.length) (rest : List (List UInt8)) :
    ∃ t, s.Takes (piece :: rest) t (some fault) := by
  cases room with
  | zero => exact ⟨s, .full (List.ne_nil_of_length_pos h) hlimit⟩
  | succ room =>
    have htaken : (piece.take (room + 1)).length = room + 1 := List.length_take_of_le (Nat.le_of_lt h)
    have hleft : piece.drop (room + 1) ≠ [] := by
      rw [ne_eq, List.drop_eq_nil_iff]
      exact Nat.not_le.mpr h
    let s' : Sink := { s with taken := (piece.take (room + 1)).reverseAux s.taken, limit := some (0, fault) }
    have hfits : s.write (piece.take (room + 1)) = (s', none) := by
      rw [write, hlimit]
      simp [htaken, s']
    have hall : s.Takes ((piece.take (room + 1) ++ piece.drop (room + 1)) :: rest) s' (some fault) :=
      .portion (List.ne_nil_of_length_eq_add_one htaken) hfits (.full hleft rfl)
    rw [List.take_append_drop] at hall
    exact ⟨s', hall⟩

/-- A sink can take each piece as far as it has room. -/
theorem exists_takes (s : Sink) (pieces : List (List UInt8)) : ∃ t fault, s.Takes pieces t fault := by
  induction pieces generalizing s with
  | nil => exact ⟨s, none, .done s⟩
  | cons piece rest ih =>
    by_cases hne : piece = []
    · obtain ⟨t, fault, h⟩ := ih s
      exact ⟨t, fault, hne ▸ .next h⟩
    · cases hw : s.write piece with
      | mk s' fault =>
        cases fault with
        | none =>
          obtain ⟨t, fault, h⟩ := ih s'
          have hall : s.Takes ((piece ++ []) :: rest) t fault := .portion hne hw (.next h)
          rw [List.append_nil] at hall
          exact ⟨t, fault, hall⟩
        | some fault =>
          obtain ⟨room, hlimit, hlt⟩ := limit_of_write_some hw
          obtain ⟨t, h⟩ := exists_takes_of_some hlimit hlt rest
          exact ⟨t, some fault, h⟩

theorem takes_iff {s t : Sink} {pieces : List (List UInt8)} {fault : Option Fault} :
    s.Takes pieces t fault ↔ s.write pieces.flatten = (t, fault) := by
  constructor
  · exact Takes.write_flatten
  · intro h
    obtain ⟨t', fault', ht⟩ := s.exists_takes pieces
    have heq := ht.write_flatten.symm.trans h
    rw [Prod.mk.injEq] at heq
    obtain ⟨rfl, rfl⟩ := heq
    exact ht

theorem write_snd_of_limit {s : Sink} {room : Nat} {fault : Fault} (hlimit : s.limit = some (room, fault))
    (text : List UInt8) : (s.write text).2 = if text.length ≤ room then none else some fault := by
  rw [write, hlimit]
  dsimp only
  split <;> rfl

end Sink

/-- A job that writes a text to a sink with room for so many bytes. It leaves the beginning of the text behind,
as much as there is room for, and answers the number of lines just when that is all and is flushed. Otherwise it
fails as the sink does: for want of room, or else in the flush. It is the same in whatever portions the text is
taken. -/
structure FillsUp (x : Job Sink Nat) (text : List UInt8) (sink : Sink) (room : Nat) (fault : Fault) : Prop where
  whole : x.Adds text (.ok (lines newlineByte text).length)
  written : (x sink).state.written = sink.written ++ text.take (min room text.length)
  ok_iff : ∀ n, (x sink).result = .ok n ↔
    n = (lines newlineByte text).length ∧ text.length ≤ room ∧ sink.flushFault = none
  write_error : room < text.length → (x sink).result = .error (.io fault)
  flush_error : ∀ f, text.length ≤ room → sink.flushFault = some f → (x sink).result = .error (.io f)
  portions : ∀ pieces, pieces.flatten = text → ∀ t f, sink.Takes pieces t f ↔
    t = (x sink).state ∧ f = if text.length ≤ room then none else some fault

/-- Lines that are written fill up a sink. -/
theorem fillsUp_of_effect {x : Job Sink Nat} {ls : List (List Char)} {sink : Sink} {room : Nat} {fault : Fault}
    (hplain : ∀ l ∈ ls, PlainText l) (hlimit : sink.limit = some (room, fault))
    (hx : ∀ s, Job.effect x s = Job.effect (Sink.writeLines ls) s) :
    FillsUp x (Sink.textOf ls) sink room fault := by
  have hcount : (lines newlineByte (Sink.textOf ls)).length = ls.length := by
    rw [Sink.textOf, lines_textOf hplain, List.length_map]
  have heffect := (hx sink).trans (Sink.effect_writeLines ls sink)
  have hresult : (x sink).result = _ := congrArg Prod.fst heffect
  have hstate : (x sink).state = (sink.write (Sink.textOf ls)).1 := congrArg Prod.snd heffect
  have hfault : sink.fault? (Sink.textOf ls) =
      if room < (Sink.textOf ls).length then some fault else sink.flushFault := by
    rw [Sink.fault?, hlimit]
  rw [hfault] at hresult
  refine ⟨?_, ?_, ?_, ?_, ?_, ?_⟩
  · intro s hl hf
    rw [hx, hcount]
    exact Job.Adds.writeLines ls s hl hf
  · rw [hstate, Sink.written_write, Sink.accepted, hlimit]
    simp
  · intro n
    rw [hresult, hcount]
    by_cases hroom : room < (Sink.textOf ls).length
    · simp [hroom, Nat.not_le.mpr hroom]
    · cases hflush : sink.flushFault with
      | none => simp [hroom, Nat.not_lt.mp hroom, eq_comm]
      | some f => simp [hroom]
  · intro hroom
    rw [hresult, if_pos hroom]
  · intro f hroom hflush
    rw [hresult, if_neg (Nat.not_lt.mpr hroom), hflush]
  · intro pieces hpieces t f
    rw [Sink.takes_iff, hpieces, hstate, ← Sink.write_snd_of_limit hlimit, Prod.ext_iff]
    exact ⟨fun h => ⟨h.1.symm, h.2.symm⟩, fun h => ⟨h.1.symm, h.2.symm⟩⟩

theorem initializerWriter_fillsUp (settings : Settings) (cube : Cube) {sink : Sink} {room : Nat} {fault : Fault}
    (hlimit : sink.limit = some (room, fault)) :
    FillsUp (initializerWriter settings cube) (Sink.textOf ((cube.traverse settings.order).map Color.render))
      sink room fault := by
  apply fillsUp_of_effect (plainText_of_render fun _ => exists_render_of_mem_map) hlimit
  intro s
  rw [initializerWriter, Job.effect_bind_ok _ (Job.effect_log _ s)]

theorem writeProbe_fillsUp (s : Sequence) {offset side : Nat} (hside : 0 < side)
    (hsquare : side ^ 2 ≤ 2 ^ 64 - 1) (hoffset : offset < side ^ 2) {sink : Sink} {room : Nat} {fault : Fault}
    (hlimit : sink.limit = some (room, fault)) :
    FillsUp (writeProbe s offset side) (Sink.textOf ((s.strided offset (side ^ 2)).map probeLine))
      sink room fault := by
  have hprobe := writeProbe_of_lt (s := s) hside (lt_countBound_iff.mpr hsquare) hoffset
  refine fillsUp_of_effect ?_ hlimit fun s => by rw [hprobe]
  intro l hl
  obtain ⟨e, -, rfl⟩ := List.mem_map.mp hl
  exact plainText_probeLine e

namespace Converter

/-- A failure of the writer ends a run that has a cube, and nothing is summed up. -/
theorem convert_of_write_error {settings : Settings} {reader : Reader} {source : Source} {listing : Listing}
    {cube : Cube} {sink : Sink} {e : Failure} (hv : settings.check = .ok ())
    (hread : (reader settings source ()).result = .ok listing)
    (hcube : Cube.ofSequence listing.sequence settings.side = .ok cube)
    (herror : (initializerWriter settings cube sink).result = .error e) :
    let run := (⟨settings, reader, initializerWriter⟩ : Converter).convert source sink
    run.result = .error e ∧ run.state = (initializerWriter settings cube sink).state ∧
      ∀ summary, .conversionFinished summary ∈ run.trace.events →
        .conversionFinished summary ∈ (reader settings source ()).trace.events := by
  intro run
  let c : Converter := ⟨settings, reader, initializerWriter⟩
  have hgathered : c.gathered source = .ok (listing, cube) := c.gathered_of_ok hv hread hcube
  have heffect : Job.effect (c.convert source) sink =
      (.error e, (initializerWriter settings cube sink).state) := by
    rw [effect_convert_gathered, hgathered, continued, effect_write_eq, herror]
    rfl
  refine ⟨congrArg Prod.fst heffect, congrArg Prod.snd heffect, fun summary h => ?_⟩
  have hevents : run.trace.events = _ := convert_closes (c := c) hv source sink
  rw [hevents, heffect, closing, List.append_nil] at h
  rcases component_of_mem_readingEvents (c := c) rfl sink h with h | h | h | h
  · exact h
  · cases h
  · cases h
  · cases h

/-- A sink with a limit, which may fail in the flush, takes the beginning of what a writer or a probe writes, and
only the whole of it makes for an answer. A run answers the failure of its writer and does not sum up. -/
theorem writers_fill_sink (settings : Settings) (cube : Cube) (s : Sequence) (offset side : Nat) (sink : Sink)
    (room : Nat) (fault : Fault) (hlimit : sink.limit = some (room, fault)) (hside : 0 < side)
    (hsquare : side ^ 2 ≤ 2 ^ 64 - 1) (hoffset : offset < side ^ 2) :
    let writing := initializerWriter settings cube
    FillsUp writing (Sink.textOf ((cube.traverse settings.order).map Color.render)) sink room fault ∧
    FillsUp (writeProbe s offset side) (Sink.textOf ((s.strided offset (side ^ 2)).map probeLine))
      sink room fault ∧
    (∀ (reader : Reader) source listing e, settings.check = .ok () →
      (reader settings source ()).result = .ok listing →
      Cube.ofSequence listing.sequence settings.side = .ok cube → (writing sink).result = .error e →
      let run := (⟨settings, reader, initializerWriter⟩ : Converter).convert source sink
      run.result = .error e ∧ run.state = (writing sink).state ∧
        ∀ summary, .conversionFinished summary ∈ run.trace.events →
          .conversionFinished summary ∈ (reader settings source ()).trace.events) ∧
    ∀ source summary, .conversionFinished summary ∉ (textReader settings source ()).trace.events := by
  intro writing
  refine ⟨initializerWriter_fillsUp settings cube hlimit,
    writeProbe_fillsUp s hside hsquare hoffset hlimit, ?_, ?_⟩
  · intro reader source listing e hv hread hcube herror
    exact convert_of_write_error hv hread hcube herror
  · intro source summary h
    cases component_of_mem_events_textReader h

/-- Room for three bytes of a record, and a flush that would fail: the three bytes are written, and the run fails
for want of room. A probe of nothing has room enough, and fails in the flush. -/
theorem writers_fill_sink_of_three_bytes :
    let settings : Settings := ⟨.ofNat 8, 1, .rgb, .fail⟩
    let source : Source := { bytes := encodeUtf8 "1 2 3\n".toList }
    let sink : Sink := { limit := some (3, .stream "full"), flushFault := some (.stream "stuck") }
    let run := ({ settings := settings } : Converter).convert source sink
    run.result = .error (.io (.stream "full")) ∧ run.state.written = encodeUtf8 ['\t', '\x7b', ' '] ∧
    (∀ summary, .conversionFinished summary ∉ run.trace.events) ∧
    (writeProbe #[] 0 1 sink).result = .error (.io (.stream "stuck")) := by
  intro settings source sink run
  let listing := source.listing settings.fullScale
  let text := Sink.textOf (gridLines .rgb 1 listing.sequence.toList)
  have hv : settings.check = .ok () := by
    rw [Settings.check_eq_ok_iff]
    decide +kernel
  have hread : (textReader settings source ()).result = .ok listing := result_textReader settings source.bytes
  have hside : 0 < settings.side ∧ settings.side ^ 3 < countBound := by decide
  have henough : settings.side ^ 3 ≤ listing.sequence.size := by decide +kernel
  obtain ⟨cube, hcube, hwalk⟩ := Cube.exists_ofSequence hside henough
  have hlong : 3 < text.length := by decide +kernel
  have hbegin : text.take (min 3 text.length) = encodeUtf8 ['\t', '\x7b', ' '] := by decide +kernel
  obtain ⟨hwriter, hprobe, hrun, hreader⟩ := writers_fill_sink settings cube #[] 0 1 sink 3 (.stream "full") rfl
    (by decide) (by decide) (by decide)
  rw [hwalk] at hwriter
  have hfills : FillsUp (initializerWriter settings cube) text sink 3 (.stream "full") := hwriter
  have hwritten : (initializerWriter settings cube sink).state.written = encodeUtf8 ['\t', '\x7b', ' '] := by
    rw [hfills.written, hbegin]
    rfl
  obtain ⟨hresult, hstate, hevents⟩ :=
    hrun textReader source listing _ hv hread hcube (hfills.write_error hlong)
  refine ⟨hresult, ?_, fun summary h => hreader source summary (hevents summary h), ?_⟩
  · exact (congrArg Sink.written hstate).trans hwritten
  · exact hprobe.flush_error _ (by decide) rfl

end Converter

end ColorCube
