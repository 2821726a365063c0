import ColorCube.Proofs.Diagnosis
import ColorCube.Proofs.LineByLine

/-!
# Interrupted reading

A source that fails leaves the warnings for the lines it has closed, and nothing else. They are those of the
closed part, read on its own: whatever follows its last newline counts as if it had never been delivered.
-/

namespace ColorCube

/-- A failing source yields what its closed part does. -/
theorem Source.listing_of_fault (fullScale : Binary64) {closed rest : List UInt8} (h : endsLine newlineByte closed)
    (hr : newlineByte ∉ rest) (fault : Fault) :
    Source.listing fullScale { bytes := closed ++ rest, fault := some fault } =
      Source.listing fullScale { bytes := closed } := by
  simp only [listing, lines, completeLines_append h hr]

section

variable (settings : Settings) (source : Source) {fault : Fault} (h : source.fault = some fault)

include h

theorem result_textReader_of_fault : (textReader settings source ()).result = .error (.io fault) := by
  have heffect := congrArg Prod.fst (effect_textReader settings source)
  rw [h] at heffect
  exact heffect

theorem events_textReader_of_fault :
    Job.events (textReader settings source) () =
      (source.listing settings.fullScale).rejected.map .lineRejected := by
  rw [events_textReader, if_neg (by rw [h]; exact Option.some_ne_none fault), List.append_nil]

/-- A conversion under valid settings fails with its source, and the sink is as it was. -/
theorem Converter.effect_convert_of_fault (sink : Sink) (hs : 1 ≤ settings.side)
    (hf : settings.fullScale.isPositiveFinite) :
    Job.effect ((standard settings).convert source) sink = (.error (.io fault), sink) := by
  have hcause : firstCause (listingCauses settings [] source) = some (.io fault) := by
    rw [listingCauses, firstCause_append, Settings.firstCause_causes hs hf, Source.cause?, h]
    rfl
  rw [effect_convert, guarded, hcause]

end

theorem filter_warn_map_lineRejected (rejected : List RejectedLine) :
    (rejected.map Event.lineRejected).filter (·.severity = .warn) = rejected.map .lineRejected := by
  rw [List.filter_eq_self]
  intro e he
  obtain ⟨r, -, rfl⟩ := List.mem_map.mp he
  rfl

/-- A source that fails after some bytes, however many there are, is read for nothing. It is read line by line up
to there. The reader answers the failure; it has warned of what it would warn of in the longest beginning after
which a line starts, and it has counted no lines. A conversion answers the failure too and has written nothing,
even if it had read all the records that it needs. -/
theorem interrupted_reading_yields_nothing (settings : Settings) (bytes : List UInt8) (n : Nat) (fault : Fault)
    (sink : Sink) :
    let source : Source := { bytes := bytes.take n, fault := some fault }
    let told (source : Source) : List Event := (textReader settings source ()).trace.events
    let warned (source : Source) : List Event := (told source).filter (·.severity = .warn)
    let run := ({ settings := settings } : Converter).convert source sink
    textReader settings source = readOn settings.fullScale 1 source .empty ∧
    (textReader settings source ()).result = .error (.io fault) ∧
    (∃ closed, IsClosedPart newlineByte closed (bytes.take n) ∧ warned source = warned { bytes := closed }) ∧
    (∀ accepted rejected, .listingRead accepted rejected ∉ told source) ∧
    (1 ≤ settings.side → settings.fullScale.isPositiveFinite →
      run.result = .error (.io fault) ∧ run.state = sink) := by
  intro source told warned run
  obtain ⟨closed, rest, hbytes, hclosed, hrest⟩ := exists_closedPart newlineByte (bytes.take n)
  have htold : told source = _ := events_textReader_of_fault settings source rfl
  have hlisting : source.listing settings.fullScale =
      Source.listing settings.fullScale { bytes := closed } := by
    simp only [source, hbytes]
    exact Source.listing_of_fault settings.fullScale hclosed hrest fault
  refine ⟨(readOn_eq_textReader settings source).symm, result_textReader_of_fault settings source rfl,
    ⟨closed, ?_, ?_⟩, ?_, ?_⟩
  · rw [hbytes]
    exact isClosedPart_append hclosed hrest
  · have hread : told { bytes := closed } = _ := events_textReader settings { bytes := closed }
    simp only [warned, htold, hread, hlisting, List.filter_append, filter_warn_map_lineRejected]
    exact (List.append_nil _).symm
  · intro accepted rejected hmem
    rw [htold] at hmem
    obtain ⟨r, -, hr⟩ := List.mem_map.mp hmem
    cases hr
  · intro hs hf
    have heffect := Converter.effect_convert_of_fault settings source rfl sink hs hf
    exact ⟨congrArg Prod.fst heffect, congrArg Prod.snd heffect⟩

/-- A record that fills the cube, a line that is none, and a record cut within a character. The second line is
warned of, and the third leaves no trace. -/
theorem interrupted_reading_yields_nothing_in_character :
    let settings : Settings := ⟨.ofNat 8, 1, .rgb, .fail⟩
    let bytes := encodeUtf8 "1 2 3\nx\n4 5 6é\n7 8 9\n".toList
    let source : Source := { bytes := bytes.take 14, fault := some (.stream "gone") }
    let told (source : Source) : List Event := (textReader settings source ()).trace.events
    let warned (source : Source) : List Event := (told source).filter (·.severity = .warn)
    let run := ({ settings := settings } : Converter).convert source {}
    (∃ closed, encodeUtf8 "1 2 3\nx\n".toList <+: closed ∧ warned source = warned { bytes := closed }) ∧
    warned source = [.lineRejected ⟨2, "x", .wordCount 1⟩] ∧
    run.result = .error (.io (.stream "gone")) ∧ run.state = {} := by
  intro settings bytes source told warned run
  obtain ⟨-, -, ⟨closed, hclosed, hwarned⟩, -, hrun⟩ :=
    interrupted_reading_yields_nothing settings bytes 14 (.stream "gone") {}
  obtain ⟨hresult, hstate⟩ := hrun (by decide) (by decide +kernel)
  have hbegins : encodeUtf8 "1 2 3\nx\n".toList <+: bytes.take 14 := by decide
  have hlength := hclosed.longest _ hbegins (by decide)
  have hwithin := List.prefix_of_prefix_length_le hbegins hclosed.begins hlength
  refine ⟨⟨closed, hwithin, hwarned⟩, ?_, hresult, hstate⟩
  decide +kernel

end ColorCube
