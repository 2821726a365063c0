import ColorCube.Proofs.Causes
import ColorCube.Proofs.Files

/-!
# Runs

The four ways to run a converter, each as the causes that can end it and the text that it writes when none
applies.
-/

namespace ColorCube

variable {σ α : Type}

theorem guarded_congr {causes : List (Option Failure)} (s : σ) {work work' : Except Failure α × σ}
    (h : firstCause causes = none → work = work') :
    guarded causes s work = guarded causes s work' := by
  unfold guarded
  cases hc : firstCause causes with
  | some e => rfl
  | none => exact h hc

/-- What ends a job beside a state leaves that state as it is. -/
theorem Job.effect_beside_guarded {x : Job Unit α} {causes : List (Option Failure)} {a : α} (s : σ)
    (h : effect x () = guarded causes () (.ok a, ())) :
    effect (beside x) s = guarded causes s (.ok a, s) := by
  rw [effect_beside, h]
  unfold guarded
  cases firstCause causes <;> rfl

theorem Settings.side_pos_of_causes {s : Settings} (h : firstCause s.causes = none) : 0 < s.side := by
  rw [firstCause_eq_none_iff] at h
  have hs := h _ List.mem_cons_self
  rw [cause_eq_none_iff] at hs
  omega

theorem Settings.firstCause_causes {settings : Settings} (hs : 1 ≤ settings.side)
    (hf : settings.fullScale.isPositiveFinite) : firstCause settings.causes = none := by
  simp [causes, cause, Nat.ne_of_gt hs, hf]

theorem effect_textReader_guarded (settings : Settings) (source : Source) :
    Job.effect (textReader settings source) () =
      guarded [source.cause?] () (.ok (source.listing settings.fullScale), ()) := by
  rw [effect_textReader, Source.cause?]
  cases source.fault <;> rfl

namespace Converter

/-- A converter with the text reader and the initializer writer. -/
abbrev standard (settings : Settings) : Converter := { settings := settings }

variable (settings : Settings)

theorem effect_readPathOr (missing : MissingInput) (store : Store) (path : String) :
    Job.effect ((standard settings).readPathOr missing store path) () =
      guarded [store.openCause? missing path, (store.sourceAt path).cause?] ()
        (.ok ((store.sourceAt path).listing settings.fullScale), ()) := by
  rw [readPathOr, Job.effect_bind_ok _ (a := store.openSource path) (t := ()) rfl]
  unfold Store.openCause? Store.sourceAt
  cases ho : store.openSource path with
  | ok source =>
    rw [guarded_none]
    exact effect_textReader_guarded settings source
  | error e => cases missing <;> rfl

/-- A listing makes a cube unless there is a cause against it, and a walk of that cube shows the grid. -/
theorem effect_buildCube (listing : Listing) (s : σ) (h : 0 < settings.side) :
    (∃ e, firstCause (cubeCauses settings.side listing.sequence.size) = some e ∧
      Job.effect ((standard settings).buildCube listing) s = (.error e, s)) ∨
    (firstCause (cubeCauses settings.side listing.sequence.size) = none ∧
      ∃ cube, Job.effect ((standard settings).buildCube listing) s = (.ok cube, s) ∧
        (cube.traverse settings.order).map Color.render =
          gridLines settings.order settings.side listing.sequence.toList ∧
        settings.side ^ 3 ≤ listing.sequence.toList.length) := by
  rw [buildCube, Job.effect_within, Cube.effect_build]
  by_cases hb : settings.side ^ 3 < countBound
  · by_cases hs : settings.side ^ 3 ≤ listing.sequence.size
    · obtain ⟨cube, hc, ht⟩ := Cube.exists_ofSequence ⟨h, hb⟩ hs
      refine Or.inr ⟨?_, cube, by rw [hc], ht settings.order, by simpa using hs⟩
      simp [cubeCauses, cause, Nat.not_le.mpr hb, Nat.not_lt.mpr hs]
    · refine Or.inl ⟨.insufficientData (settings.side ^ 3) listing.sequence.size, ?_, ?_⟩
      · simp [cubeCauses, cause, Nat.not_le.mpr hb, Nat.not_le.mp hs]
      · rw [Cube.ofSequence_of_short ⟨h, hb⟩ (Nat.not_le.mp hs)]
  · refine Or.inl ⟨.invalidSide settings.side, ?_, ?_⟩
    · simp [cubeCauses, cause, Nat.not_lt.mp hb]
    · rw [Cube.ofSequence_of_invalid fun hc => hb hc.2]

/-- The text of the grid that some colors make. -/
def textFor (colors : List Color) : List UInt8 :=
  Sink.textOf (gridLines settings.order settings.side colors)

/-- The counts of a run that writes the cube of a listing. -/
def summaryFor (listing : Listing) : Summary :=
  ⟨listing.sequence.size, listing.rejected.length, settings.side ^ 3⟩

/-- Writing a cube that shows the grid. -/
theorem effect_write {listing : Listing} {cube : Cube} (sink : Sink)
    (ht : (cube.traverse settings.order).map Color.render =
      gridLines settings.order settings.side listing.sequence.toList)
    (hs : settings.side ^ 3 ≤ listing.sequence.toList.length) :
    Job.effect ((standard settings).write listing cube) sink =
      sink.taking (textFor settings listing.sequence.toList) (summaryFor settings listing) := by
  have hw : Job.effect (initializerWriter settings cube) sink =
      sink.taking (textFor settings listing.sequence.toList) (settings.side ^ 3) := by
    rw [initializerWriter, Job.effect_bind_ok _ (Job.effect_log _ sink),
      Sink.effect_writeLines_eq_taking, ht, length_gridLines hs, textFor]
  rw [write, Job.effect_bind, Job.effect_within, hw, Sink.taking, Sink.taking]
  cases sink.cause? (textFor settings listing.sequence.toList) <;> rfl

theorem effect_convertListing (listing : Listing) (sink : Sink) (h : 0 < settings.side) :
    Job.effect ((standard settings).convertListing listing) sink =
      guarded (cubeCauses settings.side listing.sequence.size) sink
        (sink.taking (textFor settings listing.sequence.toList) (summaryFor settings listing)) := by
  rw [convertListing, Job.effect_bind_ok _ (Job.effect_log _ sink)]
  rcases effect_buildCube settings listing sink h with ⟨e, hc, he⟩ | ⟨hc, cube, he, ht, hs⟩
  · rw [Job.effect_bind_error _ he, guarded, hc]
  · rw [Job.effect_bind_ok _ he, guarded, hc]
    exact effect_write settings sink ht hs

/-- The causes that a listing is not written, once it is asked for. -/
def listingCauses (read : List (Option Failure)) (source : Source) : List (Option Failure) :=
  settings.causes ++ (read ++ (source.cause? ::
    cubeCauses settings.side (source.colors settings.fullScale).length))

/-- The text that a source is converted to. -/
def textOf (source : Source) : List UInt8 := textFor settings (source.colors settings.fullScale)

/-- The counts of a source that is converted. -/
def summaryOf (source : Source) : Summary where
  records := (source.colors settings.fullScale).length
  skipped := source.lines.length - (source.colors settings.fullScale).length
  emitted := settings.side ^ 3

theorem summaryFor_listing (source : Source) :
    summaryFor settings (source.listing settings.fullScale) = summaryOf settings source := by
  simp [summaryFor, summaryOf, Source.listing, Source.colors, Listing.length_rejected_ofLines]

/-- What follows the check of the settings, the log of the start aside: a listing is read and written. -/
theorem effect_read_convert {read : Job Unit Listing} {causes : List (Option Failure)}
    {source : Source} (sink : Sink)
    (h : Job.effect read () =
      guarded causes () (.ok (source.listing settings.fullScale), ())) (hs : 0 < settings.side) :
    Job.effect (do
        let listing ← Job.beside (.within .readListing read)
        (standard settings).convertListing listing) sink =
      guarded (causes ++ cubeCauses settings.side (source.colors settings.fullScale).length) sink
        (sink.taking (textOf settings source) (summaryOf settings source)) := by
  rw [Job.effect_bind_guarded (Job.effect_beside_guarded (x := .within .readListing read) sink h),
    effect_convertListing settings _ sink hs, guarded_append, summaryFor_listing]
  simp only [Source.listing, Listing.sequence_ofLines, List.size_toArray, textOf, Source.colors]

theorem effect_convert (source : Source) (sink : Sink) :
    Job.effect ((standard settings).convert source) sink =
      guarded (listingCauses settings [] source) sink
        (sink.taking (textOf settings source) (summaryOf settings source)) := by
  rw [convert, Job.effect_within, check, Job.effect_bind_guarded (settings.effect_check sink),
    listingCauses, guarded_append]
  apply guarded_congr
  intro hc
  exact effect_read_convert settings sink (effect_textReader_guarded settings source)
    (Settings.side_pos_of_causes hc)

/-- Under valid settings a source that ends well is ended only by what speaks against the cube. -/
theorem effect_convert_of_valid (source : Source) (sink : Sink)
    (hs : 1 ≤ settings.side) (hf : settings.fullScale.isPositiveFinite) (hfault : source.fault = none) :
    Job.effect ((standard settings).convert source) sink =
      guarded (cubeCauses settings.side (source.colors settings.fullScale).length) sink
        (sink.taking (textOf settings source) (summaryOf settings source)) := by
  rw [effect_convert, listingCauses, guarded_append,
    guarded_of_none _ _ (Settings.firstCause_causes hs hf), Source.cause?, hfault]
  rfl

/-- With valid settings, enough colors and streams that do not fail, the text is written. -/
theorem convert_of_enough (source : Source) (sink : Sink) (hs : 1 ≤ settings.side)
    (hcube : settings.side ^ 3 ≤ 2 ^ 64 - 1) (hf : settings.fullScale.isPositiveFinite)
    (henough : settings.side ^ 3 ≤ (source.colors settings.fullScale).length)
    (hfault : source.fault = none) (hlimit : sink.limit = none) (hflush : sink.flushFault = none) :
    ((standard settings).convert source sink).result = .ok (summaryOf settings source) ∧
      ((standard settings).convert source sink).state.written =
        sink.written ++ textOf settings source := by
  have hnone : firstCause (cubeCauses settings.side (source.colors settings.fullScale).length) =
      none := by
    rw [firstCause_cubeCauses hcube, cause_eq_none_iff]
    exact Nat.not_lt.mpr henough
  have hrun := effect_convert_of_valid settings source sink hs hf hfault
  rw [guarded_of_none _ _ hnone] at hrun
  obtain ⟨hr, hw⟩ := Sink.taking_of_unfailing (textOf settings source) (summaryOf settings source)
    hlimit hflush
  refine ⟨?_, ?_⟩
  · exact (congrArg Prod.fst hrun).trans hr
  · exact (congrArg (fun r => r.2.written) hrun).trans hw

/-- A conversion that succeeds has met no cause and has written its text. -/
theorem written_of_convert_eq_ok {source : Source} {sink : Sink} {summary : Summary}
    (h : ((standard settings).convert source sink).result = .ok summary) :
    firstCause (listingCauses settings [] source) = none ∧
      ((standard settings).convert source sink).state.written =
        sink.written ++ textOf settings source := by
  have he := Job.effect_of_result h
  rw [effect_convert] at he
  obtain ⟨hc, ht⟩ := eq_of_guarded_eq_ok he
  exact ⟨hc, Sink.written_of_taking_eq_ok ht⟩

theorem effect_convertFile (store : Store) (path : String) (sink : Sink) :
    Job.effect ((standard settings).convertFile store path) sink =
      guarded
        (listingCauses settings [store.openCause? settings.missingInput path] (store.sourceAt path))
        sink (sink.taking (textOf settings (store.sourceAt path))
          (summaryOf settings (store.sourceAt path))) := by
  rw [convertFile, Job.effect_within, check, Job.effect_bind_guarded (settings.effect_check sink),
    listingCauses, guarded_append]
  apply guarded_congr
  intro hc
  rw [Job.effect_bind_ok _ (Job.effect_log _ sink)]
  exact effect_read_convert settings sink
    (effect_readPathOr settings settings.missingInput store path) (Settings.side_pos_of_causes hc)

/-- A text that is written to an output file. -/
theorem effect_writingTo_output {x : Job Sink α} {output : String} {l : Location} {store : Store}
    {text : List UInt8} {answer : α} (hl : store.locate output = .ok l)
    (h : Job.effect x (store.outputSink output) = (store.outputSink output).taking text answer) :
    Job.effect (Store.writingTo l x) (store.put l (.file [])) =
      (verdict [(store.outputSink output).cause? text] answer,
        store.withOutput output ((store.outputSink output).accepted text)) := by
  have hsink : store.outputSink output = (store.medium l).sink := by rw [Store.outputSink, hl]
  have hm : (store.put l (.file [])).medium = store.medium := rfl
  rw [hsink] at h ⊢
  rw [Store.effect_writingTo, hm, h, Sink.taking, Sink.written_write, Store.withOutput, hl]
  rfl

/-- A listing is written to an output file once there is a cube of it and the file is created. -/
theorem effect_write_output (listing : Listing) (output : String) (store : Store)
    (h : 0 < settings.side) :
    Job.effect (do
        let cube ← (standard settings).buildCube listing
        let location ← Job.within .createOutput (Store.create output)
        Store.writingTo location ((standard settings).write listing cube)) store =
      guarded (cubeCauses settings.side listing.sequence.size ++ [store.createCause? output]) store
        (verdict [(store.outputSink output).cause? (textFor settings listing.sequence.toList)]
            (summaryFor settings listing),
          store.withOutput output
            ((store.outputSink output).accepted (textFor settings listing.sequence.toList))) := by
  rcases effect_buildCube settings listing store h with ⟨e, hc, he⟩ | ⟨hc, cube, he, ht, hs⟩
  · rw [Job.effect_bind_error _ he, guarded_append, guarded, hc]
  · have hcreate : Job.effect (Job.within .createOutput (Store.create output)) store = _ :=
      Store.effect_create output store
    rw [Job.effect_bind_ok _ he, guarded_append, guarded_of_none _ _ hc, Store.createCause?]
    cases hl : store.locate output with
    | error e =>
      rw [hl] at hcreate
      rw [Job.effect_bind_error _ hcreate, guarded_some]
    | ok l =>
      rw [hl] at hcreate
      rw [Job.effect_bind_ok _ hcreate, guarded_none, guarded_nil]
      exact effect_writingTo_output hl (effect_write settings (store.outputSink output) ht hs)

theorem effect_convertFileTo (store : Store) (input output : String) :
    Job.effect ((standard settings).convertFileTo input output) store =
      guarded (listingCauses settings [store.openCause? settings.missingInput input]
          (store.sourceAt input) ++ [store.createCause? output]) store
        (verdict [(store.outputSink output).cause? (textOf settings (store.sourceAt input))]
            (summaryOf settings (store.sourceAt input)),
          store.withOutput output
            ((store.outputSink output).accepted (textOf settings (store.sourceAt input)))) := by
  rw [convertFileTo, Job.effect_within, check, Job.effect_bind_guarded (settings.effect_check store),
    listingCauses, List.append_assoc, guarded_append]
  apply guarded_congr
  intro hc
  have hr := Job.effect_beside_guarded (x := .within .readListing
      ((standard settings).readPath store input)) store
    (effect_readPathOr settings settings.missingInput store input)
  have hw := effect_write_output settings
    ((store.sourceAt input).listing settings.fullScale) output store (Settings.side_pos_of_causes hc)
  rw [summaryFor_listing] at hw
  simp only [Source.listing, Listing.sequence_ofLines, List.size_toArray] at hw
  rw [Job.effect_bind_ok _ (Job.effect_log _ store), Job.effect_bind_ok _ (Job.effect_get store),
    Job.effect_bind_guarded hr]
  simp only [Source.listing]
  rw [hw]
  exact (guarded_append [store.openCause? settings.missingInput input, (store.sourceAt input).cause?]
    _ store _).symm

/-- The lines of a probe of some colors. -/
def probeLines (side offset : Nat) (colors : List Color) : List (List Char) :=
  (Sequence.strided colors.toArray offset (side ^ 2)).map probeLine

theorem effect_writeProbe {side : Nat} (colors : List Color) (offset : Nat) (sink : Sink)
    (h : 0 < side) :
    Job.effect (writeProbe colors.toArray offset side) sink =
      guarded (probeCauses side offset) sink
        (sink.taking (Sink.textOf (probeLines side offset colors))
          (probeLines side offset colors).length) := by
  unfold probeCauses cause
  by_cases hb : side ^ 2 < countBound
  · rw [if_neg (Nat.not_le.mpr hb), guarded_none]
    by_cases ho : offset < side ^ 2
    · rw [if_neg (Nat.not_le.mpr ho), guarded_none, guarded_nil, writeProbe_of_lt h hb ho,
        Sink.effect_writeLines_eq_taking]
      rfl
    · have hpast := Nat.not_lt.mp ho
      rw [if_pos hpast, guarded_some, writeProbe_of_past h hb hpast, Job.effect_fail]
  · have hlarge := Nat.not_lt.mp hb
    rw [if_pos hlarge, guarded_some, writeProbe_of_invalid (Or.inr hlarge), Job.effect_fail]

/-- The causes that a probe is not written. -/
def probingCauses (store : Store) (path : String) (offset : Nat) : List (Option Failure) :=
  settings.causes ++ [store.openCause? .fail path, (store.sourceAt path).cause?] ++
    probeCauses settings.side offset

theorem effect_probeFile (store : Store) (path : String) (offset : Nat) (sink : Sink) :
    Job.effect ((standard settings).probeFile store path offset) sink =
      guarded (probingCauses settings store path offset) sink
        (let ls := probeLines settings.side offset ((store.sourceAt path).colors settings.fullScale)
        sink.taking (Sink.textOf ls) ls.length) := by
  rw [probeFile, Job.effect_within, check, Job.effect_bind_guarded (settings.effect_check sink),
    probingCauses, List.append_assoc, guarded_append]
  apply guarded_congr
  intro hc
  rw [Job.effect_bind_guarded (Job.effect_beside_guarded sink
    (effect_readPathOr settings .fail store path)), guarded_append]
  simp only [Source.listing, Listing.sequence_ofLines]
  rw [effect_writeProbe _ offset sink (Settings.side_pos_of_causes hc)]
  rfl

end Converter

end ColorCube
