import ColorCube.Proofs.Accounting
import ColorCube.Proofs.Events
import ColorCube.Proofs.Runs

/-!
# Diagnosis

The log of a conversion tells what came of it: a warning for every line that is no record and one for entries
left over, the counts of the reading if that came to its end, and the counts of the run if it answers.
-/

namespace ColorCube

/-- The wordings of the warnings among some events. -/
def warnings (es : List Event) : List String := (es.filter (·.severity = .warn)).map Event.message

@[simp] theorem warnings_nil : warnings [] = [] := rfl

@[simp] theorem warnings_append (es fs : List Event) : warnings (es ++ fs) = warnings es ++ warnings fs := by
  rw [warnings, List.filter_append, List.map_append]
  rfl

@[simp] theorem warnings_closing (r : Except Failure Summary) : warnings (closing r) = [] := by
  cases r <;> rfl

theorem warnings_map_lineRejected (rejected : List RejectedLine) :
    warnings (rejected.map .lineRejected) = rejected.map fun r => (Event.lineRejected r).message := by
  induction rejected with
  | nil => rfl
  | cons r rest ih =>
    rw [List.map_cons, List.map_cons, ← ih]
    rfl

theorem events_textReader (settings : Settings) (source : Source) :
    Job.events (textReader settings source) () =
      (source.listing settings.fullScale).rejected.map .lineRejected ++
        if source.fault = none then
          [.listingRead (source.listing settings.fullScale).sequence.size
            (source.listing settings.fullScale).rejected.length]
        else [] := by
  rw [textReader, Job.events_bind_ok _ (Job.effect_logAll _ ()), Job.events_logAll]
  cases source.fault with
  | none =>
    rw [if_pos rfl]
    rfl
  | some fault =>
    rw [if_neg (Option.some_ne_none fault)]
    rfl

theorem component_of_mem_events_textReader {settings : Settings} {source : Source} {e : Event}
    (h : e ∈ Job.events (textReader settings source) ()) : e.component = .reading := by
  rw [events_textReader, List.mem_append] at h
  rcases h with h | h
  · obtain ⟨r, -, rfl⟩ := List.mem_map.mp h
    rfl
  · rw [List.mem_ite_nil_right, List.mem_singleton] at h
    rw [h.2]
    rfl

theorem events_writeLines (ls : List (List Char)) (sink : Sink) :
    Job.events (Sink.writeLines ls) sink = [] := by
  simp only [Job.events, Sink.writeLines]
  split
  · rfl
  · split <;> rfl

theorem events_initializerWriter (settings : Settings) (cube : Cube) (sink : Sink) :
    Job.events (initializerWriter settings cube) sink = [.writingStarted cube.size settings.order] := by
  rw [initializerWriter, Job.events_bind_ok _ (Job.effect_log _ sink), Job.events_log, events_writeLines]
  rfl

/-- Entries left over are the only thing that a cube is built with a warning for. -/
theorem Cube.warnings_notes {s : Sequence} {side : Nat} {cube : Cube} (h : ofSequence s side = .ok cube) :
    warnings (cube.notes s side) =
      if side ^ 3 < s.size then [(Event.surplusIgnored (s.size - side ^ 3) (side ^ 3) side).message]
      else [] := by
  rw [notes, (holds_of_ofSequence h).size_eq]
  by_cases hs : side ^ 3 < s.size
  · rw [if_pos hs, if_pos hs]
    rfl
  · rw [if_neg hs, if_neg hs]
    rfl

theorem Cube.component_of_mem_notes {cube : Cube} {s : Sequence} {side : Nat} {e : Event}
    (h : e ∈ cube.notes s side) : e.component = .cube := by
  rw [notes, List.mem_append, List.mem_ite_nil_right, List.mem_singleton, List.mem_singleton] at h
  rcases h with ⟨-, rfl⟩ | rfl
  · rfl
  · rfl

namespace Converter

section

variable {c : Converter} (hw : c.writer = initializerWriter) (listing : Listing) (sink : Sink)

include hw

theorem component_of_mem_listingEvents {e : Event} (h : e ∈ c.listingEvents listing sink) :
    e = .conversionStarted ∨ e.component = .cube ∨ e.component = .writing := by
  rw [listingEvents, hw, List.mem_cons] at h
  rcases h with rfl | h
  · exact Or.inl rfl
  · cases hc : Cube.ofSequence listing.sequence c.settings.side with
    | error e => simp [hc] at h
    | ok cube =>
      simp only [hc, List.mem_append, events_initializerWriter, List.mem_singleton] at h
      rcases h with h | rfl
      · exact Or.inr (Or.inl (Cube.component_of_mem_notes h))
      · exact Or.inr (Or.inr rfl)

/-- Entries are left over when there are more than fill a cube whose size is a count. -/
theorem warnings_listingEvents (hside : 0 < c.settings.side) :
    warnings (c.listingEvents listing sink) =
      if c.settings.side ^ 3 ≤ 2 ^ 64 - 1 ∧ c.settings.side ^ 3 < listing.sequence.size then
        [(Event.surplusIgnored (listing.sequence.size - c.settings.side ^ 3) (c.settings.side ^ 3)
          c.settings.side).message]
      else [] := by
  have hbegin : ∀ es, warnings (.conversionStarted :: es) = warnings es := fun _ => rfl
  have hwriting : ∀ count order, warnings [.writingStarted count order] = [] := fun _ _ => rfl
  rw [listingEvents, hw, hbegin]
  cases hc : Cube.ofSequence listing.sequence c.settings.side with
  | ok cube =>
    obtain ⟨-, hle, -⟩ := Cube.exists_ofSequence_iff.mp ⟨cube, hc⟩
    simp only [events_initializerWriter, warnings_append, hwriting, Cube.warnings_notes hc, List.append_nil,
      hle, true_and]
  | error e =>
    rw [if_neg, warnings_nil]
    rintro ⟨hle, hlt⟩
    obtain ⟨cube, hcube⟩ := Cube.exists_ofSequence_iff.mpr ⟨hside, hle, Nat.le_of_lt hlt⟩
    rw [hc] at hcube
    cases hcube

/-- What follows the reading neither sums up nor counts lines. -/
theorem component_of_mem_readingEvents {read : Job Unit Listing} {e : Event}
    (h : e ∈ c.readingEvents read sink) : e ∈ Job.events read () ∨
      e = .conversionStarted ∨ e.component = .cube ∨ e.component = .writing := by
  rw [readingEvents, List.mem_append] at h
  refine h.imp_right fun h => ?_
  cases hr : (Job.effect read ()).1 with
  | error e => simp [hr] at h
  | ok listing =>
    rw [hr] at h
    exact component_of_mem_listingEvents hw listing sink h

end

variable {settings : Settings} (source : Source) (sink : Sink)

theorem readingEvents_standard : (standard settings).readingEvents ((standard settings).read source) sink =
    Job.events (textReader settings source) () ++
      if source.fault = none then
        (standard settings).listingEvents (source.listing settings.fullScale) sink
      else [] := by
  have hread : (Job.effect ((standard settings).read source) ()).1 = _ :=
    congrArg Prod.fst (effect_textReader settings source)
  rw [readingEvents, hread, read]
  cases source.fault with
  | none =>
    rw [if_pos rfl]
  | some fault =>
    rw [if_neg (Option.some_ne_none fault)]

theorem conversionFinished_notMem_readingEvents (summary : Summary) :
    .conversionFinished summary ∉ (standard settings).readingEvents ((standard settings).read source) sink := by
  intro h
  rcases component_of_mem_readingEvents (c := standard settings) rfl sink h with h | h | h | h
  · cases component_of_mem_events_textReader h
  · cases h
  · cases h
  · cases h

/-- Every rejected line is warned of, in the order of the lines, and then entries left over are. -/
theorem warnings_convert (hv : settings.check = .ok ()) :
    warnings (Job.events ((standard settings).convert source) sink) =
      ((source.listing settings.fullScale).rejected.map fun r => (Event.lineRejected r).message) ++
        if source.fault = none ∧ settings.side ^ 3 ≤ 2 ^ 64 - 1 ∧
            settings.side ^ 3 < (source.listing settings.fullScale).sequence.size then
          [(Event.surplusIgnored ((source.listing settings.fullScale).sequence.size - settings.side ^ 3)
            (settings.side ^ 3) settings.side).message]
        else [] := by
  have hcounts : ∀ accepted rejected, warnings [.listingRead accepted rejected] = [] := fun _ _ => rfl
  have hside : 0 < settings.side := (settings.check_eq_ok_iff.mp hv).1
  rw [convert_closes (c := standard settings) hv source sink, warnings_append, warnings_closing,
    List.append_nil, readingEvents_standard, events_textReader, warnings_append, warnings_append,
    warnings_map_lineRejected, List.append_assoc]
  congr 1
  cases source.fault with
  | none =>
    rw [if_pos rfl, if_pos rfl, hcounts, warnings_listingEvents (c := standard settings) rfl _ sink hside]
    simp only [true_and, List.nil_append]
  | some fault => simp

/-- The counts of a reading are told when it has come to its end. -/
theorem listingRead_mem_convert_iff (hv : settings.check = .ok ()) (accepted rejected : Nat) :
    .listingRead accepted rejected ∈ Job.events ((standard settings).convert source) sink ↔
      source.fault = none ∧ accepted = (source.listing settings.fullScale).sequence.size ∧
        rejected = (source.listing settings.fullScale).rejected.length := by
  have hclosing : ∀ r, .listingRead accepted rejected ∉ closing r := by
    intro r
    cases r <;> simp [closing]
  rw [convert_closes (c := standard settings) hv source sink, readingEvents_standard, events_textReader]
  simp only [List.mem_append, List.mem_map, List.mem_ite_nil_right, List.mem_singleton, Event.listingRead.injEq]
  constructor
  · rintro (((⟨r, -, hr⟩ | h) | ⟨-, h⟩) | h)
    · cases hr
    · exact h
    · rcases component_of_mem_listingEvents (c := standard settings) rfl _ sink h with h | h | h <;> cases h
    · exact absurd h (hclosing _)
  · intro h
    exact Or.inl (Or.inl (Or.inr h))

/-- The event at the end of a log sums up the answer, and no other event sums up. -/
theorem getElem?_events_convert_iff (i : Nat) (summary : Summary) :
    (Job.events ((standard settings).convert source) sink)[i]? = some (.conversionFinished summary) ↔
      i + 1 = (Job.events ((standard settings).convert source) sink).length ∧
        ((standard settings).convert source sink).result = .ok summary := by
  cases hv : settings.check with
  | ok =>
    rw [convert_closes (c := standard settings) hv source sink]
    exact getElem?_append_closing_iff (conversionFinished_notMem_readingEvents source sink) i summary
  | error e =>
    obtain ⟨⟨trace, hfails⟩, -⟩ := runs_failAlike_of_check_error hv source sink {} "" "" 0
    have hresult := congrArg Job.Outcome.result (hfails (textReader, initializerWriter))
    rw [(events_of_refused (c := standard settings) hv source {} "" sink).1]
    refine iff_of_false nofun fun h => ?_
    have hok := hresult.symm.trans h.2
    cases hok

section

variable {store : Store} {path : String}

/-- A file that is opened is told of, and then it is as if its bytes were converted. -/
theorem convertFile_of_opened (hv : settings.check = .ok ()) (h : store.openSource path = .ok source) :
    ((standard settings).convertFile store path sink).result =
      ((standard settings).convert source sink).result ∧
    Job.events ((standard settings).convertFile store path) sink =
      .fileStarted path none :: Job.events ((standard settings).convert source) sink := by
  have heffect := (standard settings).effect_convertFile_of_opened h sink
  refine ⟨congrArg Prod.fst heffect, ?_⟩
  rw [convertFile_closes (c := standard settings) hv store path sink,
    convert_closes (c := standard settings) hv source sink, readingEvents_of_opened sink h, heffect]
  rfl

/-- A missing input that counts as empty is told of, and then it is as if nothing was converted. -/
theorem convertFile_of_missing {cause : SystemError} (hv : settings.check = .ok ())
    (h : store.openSource path = .error cause) (hm : settings.missingInput = .empty) :
    ((standard settings).convertFile store path sink).result =
      ((standard settings).convert { bytes := [] } sink).result ∧
    ∃ rest, warnings rest = [] ∧
      Job.events ((standard settings).convert { bytes := [] }) sink =
        Job.events (textReader settings { bytes := [] }) () ++ rest ∧
      Job.events ((standard settings).convertFile store path) sink =
        .fileStarted path none :: .inputMissing path cause :: rest := by
  have hnone : store.openCause? settings.missingInput path = none := by
    simp only [Store.openCause?, h, hm]
  have hempty : store.sourceAt path = { bytes := [] } := by
    rw [Store.sourceAt, h]
  have heffect : Job.effect ((standard settings).convertFile store path) sink =
      Job.effect ((standard settings).convert { bytes := [] }) sink := by
    rw [effect_convertFile, effect_convert, hnone, hempty]
    simp only [listingCauses, guarded_append, List.cons_append, List.nil_append, guarded_none]
  have hlisting : Source.listing settings.fullScale { bytes := [] } = .empty := by
    simp [Source.listing, Source.lines, Listing.ofLines, Listing.empty]
  refine ⟨congrArg Prod.fst heffect, (standard settings).listingEvents .empty sink ++
    closing ((standard settings).convert { bytes := [] } sink).result, ?_, ?_, ?_⟩
  · rw [warnings_append, warnings_closing, List.append_nil,
      warnings_listingEvents (c := standard settings) rfl _ sink (settings.check_eq_ok_iff.mp hv).1, if_neg]
    exact fun hlt => Nat.not_lt_zero _ hlt.2
  · rw [convert_closes (c := standard settings) hv { bytes := [] } sink, readingEvents_standard, if_pos rfl,
      hlisting, List.append_assoc]
    rfl
  · rw [convertFile_closes (c := standard settings) hv store path sink, readingEvents_of_missing sink h hm,
      heffect]
    rfl

/-- A missing input that ends a run is told of before it does. -/
theorem events_convertFile_of_unreadable {cause : SystemError} (hv : settings.check = .ok ())
    (h : store.openSource path = .error cause) (hm : settings.missingInput = .fail) :
    Job.events ((standard settings).convertFile store path) sink = [.fileStarted path none] := by
  have hcause : store.openCause? settings.missingInput path = some (.unreadableInput path cause) := by
    simp only [Store.openCause?, h, hm]
  obtain ⟨hside, hscale⟩ := settings.check_eq_ok_iff.mp hv
  have heffect : Job.effect ((standard settings).convertFile store path) sink =
      (.error (.unreadableInput path cause), sink) := by
    rw [effect_convertFile, hcause, listingCauses, guarded_append,
      guarded_of_none _ _ (Settings.firstCause_causes hside hscale)]
    rfl
  rw [convertFile_closes (c := standard settings) hv store path sink, readingEvents_of_unreadable sink h hm,
    heffect]
  rfl

/-- The log of a conversion tells what came of it. With settings that are refused there is none. Otherwise its
warnings are those of the rejected lines, in order, and then that of the entries left over, if a cube could be
built and there are any. It ends by summing up just when the run answers, and nothing else in it sums up; the
lines are counted just when the reading has come to its end. The log of a file has the file in front, and a
warning in place of the reading when the file is missing and counts as empty. -/
theorem diagnostics_match_result (settings : Settings) (source : Source) (sink : Sink) (store : Store)
    (path : String) :
    let c : Converter := { settings := settings }
    let run := c.convert source sink
    let fileRun := c.convertFile store path sink
    let listing := source.listing settings.fullScale
    let records := listing.sequence.size
    let needed := settings.side ^ 3
    (source.fault = none → (textReader settings source ()).result = .ok listing) ∧
    records + listing.rejected.length = source.lines.length ∧
    (∀ e, settings.check = .error e → run.trace.events = [] ∧ fileRun.trace.events = []) ∧
    (settings.check = .ok () → warnings run.trace.events =
      (listing.rejected.map fun r =>
        s!"Skipping invalid line {r.number}: '" ++ r.content ++ "' (" ++ r.reason.message ++ ")") ++
      if source.fault = none ∧ needed ≤ 2 ^ 64 - 1 ∧ needed < records then
        [s!"Ignoring {records - needed} entries beyond the {needed} needed for a {settings.side}^3 cube"]
      else []) ∧
    (∀ i summary, run.trace.events[i]? = some (.conversionFinished summary) ↔
      i + 1 = run.trace.events.length ∧ run.result = .ok summary) ∧
    (∀ accepted rejected, .listingRead accepted rejected ∈ run.trace.events ↔ settings.check = .ok () ∧
      source.fault = none ∧ accepted = records ∧ rejected = listing.rejected.length) ∧
    (∀ opened, settings.check = .ok () → store.openSource path = .ok opened →
      fileRun.result = (c.convert opened sink).result ∧
      fileRun.trace.events = .fileStarted path none :: (c.convert opened sink).trace.events) ∧
    ∀ cause, settings.check = .ok () → store.openSource path = .error cause →
      (settings.missingInput = .fail → fileRun.trace.events = [.fileStarted path none]) ∧
      (settings.missingInput = .empty →
        fileRun.result = (c.convert { bytes := [] } sink).result ∧
        warnings fileRun.trace.events =
          ["File '" ++ path ++ "' could not be opened (" ++ cause.message ++ "), continuing with no entries"] ∧
        ∃ rest, (c.convert { bytes := [] } sink).trace.events =
            (textReader settings { bytes := [] } ()).trace.events ++ rest ∧
          fileRun.trace.events = .fileStarted path none :: .inputMissing path cause :: rest) := by
  intro c run fileRun listing records needed
  refine ⟨?_, ?_, ?_, ?_, ?_, ?_, ?_, ?_⟩
  · intro hfault
    have h := congrArg Prod.fst (effect_textReader settings source)
    rw [hfault] at h
    exact h
  · have h := Listing.accepted_add_rejected settings.fullScale source.lines 1
    simpa [records, listing, Source.listing] using h
  · intro e h
    exact events_of_refused (c := c) h source store path sink
  · exact warnings_convert source sink
  · exact getElem?_events_convert_iff source sink
  · intro accepted rejected
    cases hv : settings.check with
    | ok =>
      refine (listingRead_mem_convert_iff source sink hv accepted rejected).trans ?_
      rw [eq_self, true_and]
    | error e =>
      have hnil : run.trace.events = [] := (events_of_refused (c := c) hv source {} "" sink).1
      rw [hnil]
      exact iff_of_false List.not_mem_nil fun h => absurd h.1 (by simp)
  · intro opened hv h
    exact convertFile_of_opened opened sink hv h
  · intro cause hv h
    refine ⟨fun hm => ?_, fun hm => ?_⟩
    · exact events_convertFile_of_unreadable sink hv h hm
    · obtain ⟨hresult, rest, hrest, hempty, hevents⟩ := convertFile_of_missing sink hv h hm
      have hfirst : warnings (.fileStarted path none :: .inputMissing path cause :: rest) =
          (Event.inputMissing path cause).message :: warnings rest := rfl
      refine ⟨hresult, ?_, rest, hempty, hevents⟩
      rw [hrest, ← hevents] at hfirst
      exact hfirst

end

/-- Two records around a line that is none, for a cube of one entry: a warning for the line and one for the
second record, and the counts of the run at the end. A file that is missing is warned of. -/
theorem diagnostics_match_result_of_three_lines :
    let settings : Settings := ⟨.ofNat 8, 1, .rgb, .empty⟩
    let c : Converter := { settings := settings }
    let source : Source := { bytes := encodeUtf8 "1 2 3\nx\n4 5 6".toList }
    let events := (c.convert source {}).trace.events
    settings.check = .ok () ∧
    warnings events = ["Skipping invalid line 2: 'x' (expected 3 values, found 1)",
      "Ignoring 1 entries beyond the 1 needed for a 1^3 cube"] ∧
    .listingRead 2 1 ∈ events ∧ events[events.length - 1]? = some (.conversionFinished ⟨2, 1, 1⟩) ∧
    Store.openSource {} "lut" = .error .notFound ∧
    warnings (c.convertFile {} "lut" {}).trace.events = ["File 'lut' could not be opened " ++
      "(No such file or directory (os error 2)), continuing with no entries"] := by
  intro settings c source events
  have hv : settings.check = .ok () := by
    rw [Settings.check_eq_ok_iff]
    decide +kernel
  have hopen : Store.openSource {} "lut" = .error .notFound := rfl
  have hrecords : (source.listing settings.fullScale).sequence.size = 2 := by decide +kernel
  have hrejected : (source.listing settings.fullScale).rejected = [⟨2, "x", .wordCount 1⟩] := by decide +kernel
  have hsummary : summaryOf settings source = ⟨2, 1, 1⟩ := by decide +kernel
  obtain ⟨hresult, -⟩ := convert_of_enough settings source {} (by decide) (by decide) (by decide +kernel)
    (by decide +kernel) rfl rfl rfl
  have hlength : events.length - 1 + 1 = events.length := by decide +kernel
  obtain ⟨-, -, -, hwarnings, hend, hcounts, -, hmissing⟩ :=
    diagnostics_match_result settings source {} {} "lut"
  obtain ⟨-, hempty⟩ := hmissing _ hv hopen
  rw [hrecords, hrejected] at hwarnings hcounts
  rw [hsummary] at hresult
  refine ⟨hv, (hwarnings hv).trans (by decide +kernel), (hcounts 2 1).mpr ⟨hv, rfl, rfl, rfl⟩,
    (hend _ _).mpr ⟨hlength, hresult⟩, hopen, (hempty rfl).2.1⟩

end Converter

end ColorCube
