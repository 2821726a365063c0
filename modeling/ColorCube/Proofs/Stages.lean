import ColorCube.Proofs.Causes

/-!
# Stages

A run calls its reader when the settings are valid, and its writer, once, when what was read fills a cube. What
the writer answers and leaves is what the run answers and leaves. A run that does not get to a stage is the same
whatever that stage is: it fails with one failure and one log, and leaves the state alone.
-/

namespace ColorCube

namespace Job

variable {σ α β ι : Type}

theorem log_apply (e : Event) (s : σ) : log e s = ⟨.ok (), s, .ofEvents [e]⟩ := rfl

/-- Outcomes with one answer and one log, and with the state left alone. -/
def AnswersAlike (run : ι → Outcome σ α) (s : σ) (a : α) : Prop :=
  ∃ trace, ∀ i, run i = ⟨.ok a, s, trace⟩

/-- Outcomes with one failure and one log, and with the state left alone. -/
def FailsAlike (run : ι → Outcome σ α) (s : σ) (e : Failure) : Prop :=
  ∃ trace, ∀ i, run i = ⟨.error e, s, trace⟩

variable {x : ι → Job σ α} {f : ι → α → Job σ β} {s : σ} {a : α} {e : Failure}

theorem AnswersAlike.within (h : AnswersAlike (x · s) s a) (span : Span) :
    AnswersAlike (fun i => Job.within span (x i) s) s a := by
  obtain ⟨trace, h⟩ := h
  refine ⟨.within span trace, fun i => ?_⟩
  simp only [Job.within, h]

theorem FailsAlike.within (h : FailsAlike (x · s) s e) (span : Span) :
    FailsAlike (fun i => Job.within span (x i) s) s e := by
  obtain ⟨trace, h⟩ := h
  refine ⟨.within span trace, fun i => ?_⟩
  simp only [Job.within, h]

theorem AnswersAlike.beside {x : ι → Job Unit α} (h : AnswersAlike (x · ()) () a) (s : σ) :
    AnswersAlike (fun i => Job.beside (x i) s) s a := by
  obtain ⟨trace, h⟩ := h
  refine ⟨trace, fun i => ?_⟩
  simp only [Job.beside, h]

theorem FailsAlike.beside {x : ι → Job Unit α} (h : FailsAlike (x · ()) () e) (s : σ) :
    FailsAlike (fun i => Job.beside (x i) s) s e := by
  obtain ⟨trace, h⟩ := h
  refine ⟨trace, fun i => ?_⟩
  simp only [Job.beside, h]

/-- What follows jobs that fail does not matter. -/
theorem FailsAlike.bind (h : FailsAlike (x · s) s e) (f : ι → α → Job σ β) :
    FailsAlike (fun i => (x i >>= f i) s) s e := by
  obtain ⟨trace, h⟩ := h
  exact ⟨trace, fun i => bind_of_error (f i) (h i)⟩

theorem AnswersAlike.bind_fails (h : AnswersAlike (x · s) s a) (hf : FailsAlike (f · a s) s e) :
    FailsAlike (fun i => (x i >>= f i) s) s e := by
  obtain ⟨trace, h⟩ := h
  obtain ⟨next, hf⟩ := hf
  refine ⟨trace ++ next, fun i => ?_⟩
  simp only [bind_of_ok (f i) (h i), hf]

theorem FailsAlike.comp {κ : Type} {run : ι → Outcome σ α} (h : FailsAlike run s e) (g : κ → ι) :
    FailsAlike (fun k => run (g k)) s e := by
  obtain ⟨trace, h⟩ := h
  exact ⟨trace, fun k => h (g k)⟩

theorem AnswersAlike.comp {κ : Type} {run : ι → Outcome σ α} (h : AnswersAlike run s a) (g : κ → ι) :
    AnswersAlike (fun k => run (g k)) s a := by
  obtain ⟨trace, h⟩ := h
  exact ⟨trace, fun k => h (g k)⟩

end Job

namespace Cube

theorem bounds_of_ofSequence {s : Sequence} {side : Nat} {cube : Cube}
    (h : ofSequence s side = .ok cube) : (0 < side ∧ side ^ 3 < countBound) ∧ side ^ 3 ≤ s.size := by
  by_cases hside : 0 < side ∧ side ^ 3 < countBound
  · by_cases hsize : side ^ 3 ≤ s.size
    · exact ⟨hside, hsize⟩
    · rw [ofSequence_of_short hside (Nat.not_le.mp hsize)] at h
      cases h
  · rw [ofSequence_of_invalid hside] at h
    cases h

/-- A listing fills a cube when the side and the number of entries allow for it. -/
theorem exists_ofSequence_iff {s : Sequence} {side : Nat} :
    (∃ cube, ofSequence s side = .ok cube) ↔
      0 < side ∧ side ^ 3 ≤ 2 ^ 64 - 1 ∧ side ^ 3 ≤ s.size := by
  rw [← lt_countBound_iff, ← and_assoc]
  constructor
  · rintro ⟨cube, h⟩
    exact bounds_of_ofSequence h
  · rintro ⟨hside, hsize⟩
    obtain ⟨cube, hc, -⟩ := exists_ofSequence hside hsize
    exact ⟨cube, hc⟩

/-- A cube of some side whose entries are those of a sequence at the ranks of their positions. -/
structure Holds (cube : Cube) (s : Sequence) (side : Nat) : Prop where
  side_eq : cube.side = side
  size_eq : cube.size = side ^ 3
  entry_eq : ∀ i j k, i < side → j < side → k < side →
    ∃ color, s[i * side ^ 2 + j * side + k]? = some color ∧ cube.get? i j k = some color

theorem holds_of_ofSequence {s : Sequence} {side : Nat} {cube : Cube}
    (h : ofSequence s side = .ok cube) : cube.Holds s side := by
  obtain ⟨hside, hsize⟩ := bounds_of_ofSequence h
  rw [ofSequence, dif_pos hside, dif_pos hsize] at h
  cases h
  refine ⟨rfl, ?_, ?_⟩
  · simp [Cube.size, Nat.min_eq_left hsize]
  · intro i j k hi hj hk
    let p : Position side := ⟨⟨i, hi⟩, ⟨j, hj⟩, ⟨k, hk⟩⟩
    have hrank : i * side ^ 2 + j * side + k = p.rank := p.rank_eq.symm
    have hlt : p.rank < s.size := Nat.lt_of_lt_of_le p.rank_lt hsize
    rw [hrank]
    refine ⟨s[p.rank], Array.getElem?_eq_getElem hlt, ?_⟩
    simp [get?, hi, hj, hk, Cube.entry, p]

/-- The notes on a cube that has been built. -/
def notes (c : Cube) (s : Sequence) (side : Nat) : List Event :=
  (if c.size < s.size then [.surplusIgnored (s.size - c.size) c.size side] else []) ++ [.cubeBuilt side]

theorem build_of_ok {σ : Type} {s : Sequence} {side : Nat} {c : Cube} (h : ofSequence s side = .ok c)
    (st : σ) : build s side st = ⟨.ok c, st, .ofEvents (c.notes s side)⟩ := by
  rw [build, h]
  by_cases hs : c.size < s.size
  · simp only [hs, if_true, notes]
    rfl
  · simp only [hs, if_false, notes]
    rfl

theorem build_of_error {σ : Type} {s : Sequence} {side : Nat} {e : Failure}
    (h : ofSequence s side = .error e) (st : σ) : build s side st = ⟨.error e, st, []⟩ := by
  rw [build, h]
  rfl

end Cube

/-- When a run gets to its writer: the settings are valid, the reader has answered a listing, and that fills a
cube of the side in the settings. -/
structure ReachesWriter (settings : Settings) (reader : Reader) (source : Source) (listing : Listing) :
    Prop where
  valid : settings.check = .ok ()
  read : (reader settings source ()).result = .ok listing
  side_le : settings.side ^ 3 ≤ 2 ^ 64 - 1
  enough : settings.side ^ 3 ≤ listing.sequence.size

theorem reachesWriter_iff {settings : Settings} {reader : Reader} {source : Source} {listing : Listing} :
    ReachesWriter settings reader source listing ↔ settings.check = .ok () ∧
      (reader settings source ()).result = .ok listing ∧
      ∃ cube, Cube.ofSequence listing.sequence settings.side = .ok cube := by
  rw [Cube.exists_ofSequence_iff]
  constructor
  · intro h
    exact ⟨h.valid, h.read, (settings.check_eq_ok_iff.mp h.valid).1, h.side_le, h.enough⟩
  · rintro ⟨hv, hr, -, hside, henough⟩
    exact ⟨hv, hr, hside, henough⟩

namespace Converter

variable {σ ι : Type}

theorem check_apply (c : Converter) (s : σ) : c.check s = ⟨c.settings.check, s, []⟩ := rfl

theorem read_apply (c : Converter) (source : Source) (s : σ) :
    Job.beside (.within .readListing (c.read source)) s =
      ⟨(c.reader c.settings source ()).result, s,
        .within .readListing (c.reader c.settings source ()).trace⟩ := rfl

variable {settings : Settings}

theorem check_failsAlike {e : Failure} (h : settings.check = .error e) (s : σ) :
    Job.FailsAlike (fun stages : Reader × Writer =>
      (⟨settings, stages.1, stages.2⟩ : Converter).check s) s e := by
  refine ⟨[], fun stages => ?_⟩
  simp only [check_apply, h]

/-- Settings that are refused end every run before its reader. -/
theorem runs_failAlike_of_check_error {e : Failure} (h : settings.check = .error e)
    (source : Source) (sink : Sink) (store : Store) (input output : String) (offset : Nat) :
    let c (stages : Reader × Writer) : Converter := ⟨settings, stages.1, stages.2⟩
    Job.FailsAlike (fun stages => (c stages).convert source sink) sink e ∧
    Job.FailsAlike (fun stages => (c stages).convertFile store input sink) sink e ∧
    Job.FailsAlike (fun stages => (c stages).convertFileTo input output store) store e ∧
    Job.FailsAlike (fun stages => (c stages).probeFile store input offset sink) sink e := by
  refine ⟨?_, ?_, ?_, ?_⟩
  · exact ((check_failsAlike h sink).bind _).within (.convert settings.order)
  · exact ((check_failsAlike h sink).bind _).within _
  · exact ((check_failsAlike h store).bind _).within _
  · exact ((check_failsAlike h sink).bind _).within _

theorem check_answersAlike (h : settings.check = .ok ()) (s : σ) :
    Job.AnswersAlike (fun stages : Reader × Writer =>
      (⟨settings, stages.1, stages.2⟩ : Converter).check s) s () := by
  refine ⟨[], fun stages => ?_⟩
  simp only [check_apply, h]

/-- An input that is opened is read. -/
theorem readPath_apply_of_opened (c : Converter) {store : Store} {path : String} {source : Source}
    (h : store.openSource path = .ok source) :
    let read := c.reader c.settings source ()
    c.readPath store path () = { read with trace := .within .openInput [] ++ read.trace } := by
  rw [readPath, readPathOr, h]
  rfl

/-- Of an input that cannot be opened nothing is read, or it is a failure. -/
theorem readPath_apply_of_unopened (c : Converter) {store : Store} {path : String} {cause : SystemError}
    (h : store.openSource path = .error cause) :
    c.readPath store path () =
      match c.settings.missingInput with
      | .fail => ⟨.error (.unreadableInput path cause), (), .within .openInput []⟩
      | .empty => ⟨.ok .empty, (), .within .openInput [] ++ .ofEvents [.inputMissing path cause]⟩ := by
  rw [readPath, readPathOr, h]
  cases c.settings.missingInput <;> rfl

/-- What follows an input that cannot be opened: a failure, or nothing read. No reader is called. -/
theorem readPath_of_unopened (settings : Settings) {store : Store} {path : String} {cause : SystemError}
    (h : store.openSource path = .error cause) :
    let read (stages : Reader × Writer) : Job Unit Listing :=
      (⟨settings, stages.1, stages.2⟩ : Converter).readPath store path
    Job.FailsAlike (read · ()) () (.unreadableInput path cause) ∨
      Job.AnswersAlike (read · ()) () .empty := by
  intro read
  cases hm : settings.missingInput with
  | fail =>
    refine Or.inl ⟨.within .openInput [], fun stages => ?_⟩
    simp only [read, readPath_apply_of_unopened _ h, hm]
  | empty =>
    refine Or.inr ⟨.within .openInput [] ++ .ofEvents [.inputMissing path cause], fun stages => ?_⟩
    simp only [read, readPath_apply_of_unopened _ h, hm]

theorem buildCube_answersAlike {listing : Listing} {cube : Cube}
    (h : Cube.ofSequence listing.sequence settings.side = .ok cube) (s : σ) :
    Job.AnswersAlike (fun stages : Reader × Writer =>
      (⟨settings, stages.1, stages.2⟩ : Converter).buildCube listing s) s cube := by
  have hbuild : Job.AnswersAlike (fun _ : Reader × Writer =>
      Cube.build listing.sequence settings.side s) s cube := ⟨_, fun _ => Cube.build_of_ok h s⟩
  exact hbuild.within (.buildCube settings.side listing.sequence.size)

theorem buildCube_failsAlike {listing : Listing} {e : Failure}
    (h : Cube.ofSequence listing.sequence settings.side = .error e) (s : σ) :
    Job.FailsAlike (fun stages : Reader × Writer =>
      (⟨settings, stages.1, stages.2⟩ : Converter).buildCube listing s) s e := by
  have hbuild : Job.FailsAlike (fun _ : Reader × Writer =>
      Cube.build listing.sequence settings.side s) s e := ⟨_, fun _ => Cube.build_of_error h s⟩
  exact hbuild.within (.buildCube settings.side listing.sequence.size)

/-- Nothing fills no cube. -/
theorem exists_cube_error_of_empty (settings : Settings) :
    ∃ e, Cube.ofSequence Listing.empty.sequence settings.side = .error e := by
  cases hc : Cube.ofSequence Listing.empty.sequence settings.side with
  | error e => exact ⟨e, rfl⟩
  | ok cube =>
    obtain ⟨hpos, -, hle⟩ := Cube.exists_ofSequence_iff.mp ⟨cube, hc⟩
    exact absurd (Nat.pow_pos hpos) (Nat.not_lt.mpr hle)

theorem log_answersAlike (event : Event) (s : σ) : Job.AnswersAlike (fun _ : ι => Job.log event s) s () :=
  ⟨_, fun _ => rfl⟩

theorem get_answersAlike (s : σ) : Job.AnswersAlike (fun _ : ι => Job.get s) s s := ⟨_, fun _ => rfl⟩

/-- Where nothing read leads to a failure, an input that cannot be opened does so too. -/
theorem unopened_bind_failsAlike {α : Type} (settings : Settings) {store : Store} {path : String}
    {cause : SystemError} (h : store.openSource path = .error cause) {f : Reader × Writer → Listing → Job σ α} {s : σ}
    {e : Failure} (hf : Job.FailsAlike (fun stages => f stages .empty s) s e) :
    ∃ e, Job.FailsAlike (fun stages : Reader × Writer => (Job.beside (.within .readListing
      ((⟨settings, stages.1, stages.2⟩ : Converter).readPath store path)) >>= f stages) s) s e := by
  rcases readPath_of_unopened settings h with hread | hread
  · exact ⟨_, ((hread.within .readListing).beside s).bind f⟩
  · exact ⟨e, ((hread.within .readListing).beside s).bind_fails hf⟩

/-- An input that cannot be opened fails a conversion before its reader. -/
theorem conversions_failAlike_of_unopened {store : Store} {path : String} {cause : SystemError}
    (h : store.openSource path = .error cause) (sink : Sink) (output : String) :
    let c (stages : Reader × Writer) : Converter := ⟨settings, stages.1, stages.2⟩
    (∃ e, Job.FailsAlike (fun stages => (c stages).convertFile store path sink) sink e) ∧
    ∃ e, Job.FailsAlike (fun stages => (c stages).convertFileTo path output store) store e := by
  intro c
  cases hv : settings.check with
  | error e =>
    obtain ⟨-, hfile, hto, -⟩ := runs_failAlike_of_check_error hv { bytes := [] } sink store path output 0
    exact ⟨⟨e, hfile⟩, ⟨e, hto⟩⟩
  | ok =>
    obtain ⟨e, he⟩ := exists_cube_error_of_empty settings
    constructor
    · obtain ⟨e, hread⟩ := unopened_bind_failsAlike settings h
        (f := fun stages listing => (c stages).convertListing listing)
        ((log_answersAlike .conversionStarted sink).bind_fails ((buildCube_failsAlike he sink).bind _))
      exact ⟨e, ((check_answersAlike hv sink).bind_fails
        ((log_answersAlike _ sink).bind_fails hread)).within .convertFile⟩
    · obtain ⟨e, hread⟩ := unopened_bind_failsAlike settings h
        (f := fun stages listing => do
          let cube ← (c stages).buildCube listing
          let location ← Job.within .createOutput (Store.create output)
          Store.writingTo location ((c stages).write listing cube)) ((buildCube_failsAlike he store).bind _)
      exact ⟨e, ((check_answersAlike hv store).bind_fails ((log_answersAlike _ store).bind_fails
        ((get_answersAlike store).bind_fails hread))).within .convertFileTo⟩

/-- Outcomes of runs that end with one call of their writer, on some settings and a cube: what the call answers
is summed up, a failure of it is passed on, what it leaves is left, and its log stands once between events that
do not depend on the writer. -/
def CallsWriterOnce (run : Writer → Job.Outcome Sink Summary) (settings : Settings) (cube : Cube)
    (sink : Sink) (summary : Nat → Summary) : Prop :=
  ∃ (before : List Event) (after : Except Failure Nat → List Event), ∀ writer,
    let call := writer settings cube sink
    (run writer).result = call.result.map summary ∧ (run writer).state = call.state ∧
      (run writer).trace.events = before ++ call.trace.events ++ after call.result

theorem CallsWriterOnce.within {x : Writer → Job Sink Summary} {cube : Cube} {sink : Sink}
    {summary : Nat → Summary} (h : CallsWriterOnce (x · sink) settings cube sink summary) (span : Span) :
    CallsWriterOnce (fun writer => Job.within span (x writer) sink) settings cube sink summary := by
  obtain ⟨before, after, h⟩ := h
  refine ⟨before, after, fun writer => ?_⟩
  obtain ⟨hr, hs, ht⟩ := h writer
  exact ⟨hr, hs, by simp only [Job.within, Trace.events_within, ht]⟩

theorem callsWriterOnce_bind {α : Type} {x : Writer → Job Sink α} {f : Writer → α → Job Sink Summary}
    {a : α} {cube : Cube} {sink : Sink} {summary : Nat → Summary}
    (h : Job.AnswersAlike (x · sink) sink a)
    (hf : CallsWriterOnce (f · a sink) settings cube sink summary) :
    CallsWriterOnce (fun writer => (x writer >>= f writer) sink) settings cube sink summary := by
  obtain ⟨trace, h⟩ := h
  obtain ⟨before, after, hf⟩ := hf
  refine ⟨trace.events ++ before, after, fun writer => ?_⟩
  obtain ⟨hr, hs, ht⟩ := hf writer
  simp only [Job.bind_of_ok (f writer) (h writer)]
  exact ⟨hr, hs, by rw [Trace.events_append, ht, List.append_assoc, List.append_assoc, List.append_assoc]⟩

variable {reader : Reader} {source : Source} {listing : Listing}

/-- The counts of a run that wrote a listing, by what its writer answers. -/
def summed (listing : Listing) (emitted : Nat) : Summary :=
  ⟨listing.sequence.size, listing.rejected.length, emitted⟩

/-- Writing is one call of the writer. -/
theorem write_callsWriterOnce (cube : Cube) (sink : Sink) :
    CallsWriterOnce (fun writer => (⟨settings, reader, writer⟩ : Converter).write listing cube sink)
      settings cube sink (summed listing) := by
  refine ⟨[], fun
    | .ok emitted => [.conversionFinished (summed listing emitted)]
    | .error _ => [], fun writer => ?_⟩
  have hcall : Job.within .writeRecords (writer settings cube) sink =
      ⟨(writer settings cube sink).result, (writer settings cube sink).state,
        .within .writeRecords (writer settings cube sink).trace⟩ := rfl
  simp only [write]
  cases hr : (writer settings cube sink).result with
  | ok emitted =>
    rw [hr] at hcall
    rw [Job.bind_of_ok _ hcall]
    exact ⟨rfl, rfl, by simp [Job.bind_of_ok _ (Job.log_apply _ _), Job.pure_apply, summed]⟩
  | error e =>
    rw [hr] at hcall
    rw [Job.bind_of_error _ hcall]
    exact ⟨rfl, rfl, by simp⟩

theorem read_answersAlike (h : (reader settings source ()).result = .ok listing) (s : σ) :
    Job.AnswersAlike (fun writer : Writer => Job.beside
      (.within .readListing ((⟨settings, reader, writer⟩ : Converter).read source)) s) s listing := by
  refine ⟨.within .readListing (reader settings source ()).trace, fun writer => ?_⟩
  simp only [read_apply, h]

theorem read_failsAlike {e : Failure} (h : (reader settings source ()).result = .error e) (s : σ) :
    Job.FailsAlike (fun writer : Writer => Job.beside
      (.within .readListing ((⟨settings, reader, writer⟩ : Converter).read source)) s) s e := by
  refine ⟨.within .readListing (reader settings source ()).trace, fun writer => ?_⟩
  simp only [read_apply, h]

/-- A run that gets to its writer calls it once, on the cube of what was read. -/
theorem convert_callsWriterOnce (h : ReachesWriter settings reader source listing) :
    ∃ cube : Cube, cube.Holds listing.sequence settings.side ∧ ∀ sink,
      CallsWriterOnce (fun writer => (⟨settings, reader, writer⟩ : Converter).convert source sink)
        settings cube sink (summed listing) := by
  obtain ⟨hv, hr, cube, hc⟩ := reachesWriter_iff.mp h
  refine ⟨cube, Cube.holds_of_ofSequence hc, fun sink => ?_⟩
  have hcheck := (check_answersAlike hv sink).comp (Prod.mk reader)
  have hbuild := (buildCube_answersAlike hc sink).comp (Prod.mk reader)
  have hlisting : CallsWriterOnce
      (fun writer => (⟨settings, reader, writer⟩ : Converter).convertListing listing sink) settings cube
      sink (summed listing) :=
    callsWriterOnce_bind (log_answersAlike .conversionStarted sink)
      (callsWriterOnce_bind hbuild (write_callsWriterOnce cube sink))
  exact (callsWriterOnce_bind hcheck
    (callsWriterOnce_bind (read_answersAlike hr sink) hlisting)).within (.convert settings.order)

theorem convert_failsAlike_of_read_error {e : Failure} (hv : settings.check = .ok ())
    (hr : (reader settings source ()).result = .error e) (sink : Sink) :
    Job.FailsAlike (fun writer : Writer =>
      (⟨settings, reader, writer⟩ : Converter).convert source sink) sink e := by
  have hcheck := (check_answersAlike hv sink).comp (Prod.mk reader)
  exact (hcheck.bind_fails ((read_failsAlike hr sink).bind _)).within (.convert settings.order)

/-- A run that does not get to its writer is the same for every writer. -/
theorem convert_failsAlike (h : ∀ listing, ¬ ReachesWriter settings reader source listing) :
    ∃ e, ∀ sink, Job.FailsAlike (fun writer : Writer =>
      (⟨settings, reader, writer⟩ : Converter).convert source sink) sink e := by
  cases hv : settings.check with
  | error e =>
    refine ⟨e, fun sink => ?_⟩
    exact (runs_failAlike_of_check_error hv source sink {} "" "" 0).1.comp (Prod.mk reader)
  | ok =>
    cases hr : (reader settings source ()).result with
    | error e => exact ⟨e, convert_failsAlike_of_read_error hv hr⟩
    | ok listing =>
      cases hc : Cube.ofSequence listing.sequence settings.side with
      | ok cube => exact absurd (reachesWriter_iff.mpr ⟨hv, hr, cube, hc⟩) (h listing)
      | error e =>
        refine ⟨e, fun sink => ?_⟩
        have hcheck := (check_answersAlike hv sink).comp (Prod.mk reader)
        have hbuild := (buildCube_failsAlike hc sink).comp (Prod.mk reader)
        have hlisting : Job.FailsAlike (fun writer : Writer =>
            (⟨settings, reader, writer⟩ : Converter).convertListing listing sink) sink e :=
          (log_answersAlike .conversionStarted sink).bind_fails (hbuild.bind _)
        exact (hcheck.bind_fails ((read_answersAlike hr sink).bind_fails hlisting)).within
          (.convert settings.order)

/-- What a run does with its stages. It gets to its writer only with valid settings and a listing that fills a
cube, and then calls it once, on the cube of that listing; otherwise it is the same for every writer. A failure
of the reader is passed on. With settings that are refused every run is the same for all stages, and so is a
conversion of a file that cannot be opened: it fails. -/
theorem stage_contract (settings : Settings) (reader : Reader) (source : Source) (sink : Sink)
    (store : Store) (input output : String) (offset : Nat) :
    let c (stages : Reader × Writer) : Converter := ⟨settings, stages.1, stages.2⟩
    (∀ listing, ReachesWriter settings reader source listing →
      ∃ cube : Cube, cube.Holds listing.sequence settings.side ∧
        CallsWriterOnce (fun writer => (c (reader, writer)).convert source sink) settings cube sink
          (summed listing)) ∧
    ((∀ listing, ¬ ReachesWriter settings reader source listing) →
      ∃ e, Job.FailsAlike (fun writer => (c (reader, writer)).convert source sink) sink e) ∧
    (∀ e, settings.check = .ok () → (reader settings source ()).result = .error e →
      ∀ writer, ((c (reader, writer)).convert source sink).result = .error e) ∧
    (∀ e, settings.check = .error e →
      Job.FailsAlike (fun stages => (c stages).convert source sink) sink e ∧
      Job.FailsAlike (fun stages => (c stages).convertFile store input sink) sink e ∧
      Job.FailsAlike (fun stages => (c stages).convertFileTo input output store) store e ∧
      Job.FailsAlike (fun stages => (c stages).probeFile store input offset sink) sink e) ∧
    (∀ cause, store.openSource input = .error cause →
      (∃ e, Job.FailsAlike (fun stages => (c stages).convertFile store input sink) sink e) ∧
      ∃ e, Job.FailsAlike (fun stages => (c stages).convertFileTo input output store) store e) := by
  intro c
  refine ⟨?_, ?_, ?_, ?_, ?_⟩
  · intro listing h
    obtain ⟨cube, hholds, hcalls⟩ := convert_callsWriterOnce h
    exact ⟨cube, hholds, hcalls sink⟩
  · intro h
    obtain ⟨e, hfails⟩ := convert_failsAlike h
    exact ⟨e, hfails sink⟩
  · intro e hv hr writer
    obtain ⟨trace, hfails⟩ := convert_failsAlike_of_read_error hv hr sink
    exact congrArg Job.Outcome.result (hfails writer)
  · intro e h
    exact runs_failAlike_of_check_error h source sink store input output offset
  · intro cause h
    exact conversions_failAlike_of_unopened h sink output

/-- Nine entries for a cube of eight and a writer that says five: the writer gets a cube of eight, and five is
what the summary has. Without a side, or without the file, no stage is called. -/
theorem stage_contract_of_nine :
    let settings : Settings := ⟨.ofNat 8, 2, .bgr, .empty⟩
    let zero := Binary64.zero false
    let listing : Listing := ⟨.replicate 9 ⟨zero, zero, zero⟩, [⟨4, "x", .wordCount 1⟩]⟩
    let reader : Reader := fun _ _ => pure listing
    let writer : Writer := fun _ cube => do
      let _ ← Sink.writeLines [digits cube.size]
      return 5
    let c (side : Nat) : Converter := ⟨{ settings with side := side }, reader, writer⟩
    ReachesWriter settings reader { bytes := [] } listing ∧
    ((c 2).convert { bytes := [] } {}).result = .ok ⟨9, 1, 5⟩ ∧
    ((c 2).convert { bytes := [] } {}).state.written = encodeUtf8 ['8', '\n'] ∧
    ((c 0).convert { bytes := [] } {}).result = .error (.invalidSide 0) ∧
    Store.openSource {} "lut" = .error .notFound ∧
    ∃ e, ((c 2).convertFile {} "lut" {}).result = .error e := by
  intro settings zero listing reader writer c
  have hreach : ReachesWriter settings reader { bytes := [] } listing := by
    refine ⟨?_, rfl, by decide, by decide⟩
    rw [Settings.check_eq_ok_iff]
    decide +kernel
  have hopen : Store.openSource {} "lut" = .error .notFound := rfl
  obtain ⟨hcalls, -, -, -, hunopened⟩ := stage_contract settings reader { bytes := [] } {} {} "lut" "" 0
  obtain ⟨cube, hholds, before, after, hcall⟩ := hcalls listing hreach
  obtain ⟨hr, hs, -⟩ := hcall writer
  obtain ⟨-, -, -, hrefused, -⟩ :=
    stage_contract { settings with side := 0 } reader { bytes := [] } {} {} "lut" "" 0
  obtain ⟨⟨trace, hzero⟩, -⟩ := hrefused (.invalidSide 0) rfl
  obtain ⟨⟨e, trace', hfile⟩, -⟩ := hunopened _ hopen
  refine ⟨hreach, hr, ?_, congrArg Job.Outcome.result (hzero (reader, writer)), hopen, e,
    congrArg Job.Outcome.result (hfile (reader, writer))⟩
  have hsize : cube.size = 8 := hholds.size_eq
  have hstate : (writer settings cube {}).state =
      { taken := (Sink.lineBytes (digits cube.size)).reverseAux [] } := rfl
  rw [hs, hstate, hsize]
  decide

end Converter

end ColorCube
