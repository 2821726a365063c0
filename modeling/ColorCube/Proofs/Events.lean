import ColorCube.Proofs.Agreement

/-!
# Events

What a job tells on its way. As with effects there is one equation for each way to put jobs together. A
conversion sums up at the very end of its log, and only if it answers.
-/

namespace ColorCube

variable {σ α β : Type}

namespace Job

/-- The events that a job logs. -/
def events (x : Job σ α) (s : σ) : List Event := (x s).trace.events

@[simp] theorem events_pure (a : α) (s : σ) : events (pure a : Job σ α) s = [] := rfl

@[simp] theorem events_fail (e : Failure) (s : σ) : events (fail e : Job σ α) s = [] := rfl

@[simp] theorem events_ofExcept (r : Except Failure α) (s : σ) : events (ofExcept r) s = [] := rfl

@[simp] theorem events_log (e : Event) (s : σ) : events (log e) s = [e] := rfl

@[simp] theorem events_logAll (es : List Event) (s : σ) : events (logAll es) s = es :=
  Trace.events_ofEvents es

@[simp] theorem events_within (span : Span) (x : Job σ α) (s : σ) :
    events (within span x) s = events x s := Trace.events_within span (x s).trace

@[simp] theorem events_beside (x : Job Unit α) (s : σ) : events (beside x) s = events x () := rfl

theorem events_bind_ok {x : Job σ α} {s t : σ} {a : α} (f : α → Job σ β)
    (h : effect x s = (.ok a, t)) : events (x >>= f) s = events x s ++ events (f a) t := by
  cases hx : x s with
  | mk result state trace =>
    simp only [effect, hx, Prod.mk.injEq] at h
    obtain ⟨rfl, rfl⟩ := h
    simp only [events, bind_of_ok f hx, hx, Trace.events_append]

theorem events_bind_error {x : Job σ α} {s t : σ} {e : Failure} (f : α → Job σ β)
    (h : effect x s = (.error e, t)) : events (x >>= f) s = events x s := by
  cases hx : x s with
  | mk result state trace =>
    simp only [effect, hx, Prod.mk.injEq] at h
    obtain ⟨rfl, rfl⟩ := h
    simp only [events, bind_of_error f hx, hx]

end Job

/-- The event that sums up an answer. -/
def closing : Except Failure Summary → List Event
  | .ok summary => [.conversionFinished summary]
  | .error _ => []

/-- A run that logs the events given and then sums up its answer, if it has one. -/
def Job.Closes (x : Job σ Summary) (s : σ) (before : List Event) : Prop :=
  events x s = before ++ closing (effect x s).1

namespace Job.Closes

theorem within {x : Job σ Summary} {s : σ} {before : List Event} (h : x.Closes s before) (span : Span) :
    (Job.within span x).Closes s before := by
  rw [Closes, events_within]
  exact h

/-- What is done first is told first. -/
theorem bind {x : Job σ α} {f : α → Job σ Summary} {s t : σ} {a : α} {told before : List Event}
    (hx : effect x s = (.ok a, t)) (he : events x s = told) (h : (f a).Closes t before) :
    (x >>= f).Closes s (told ++ before) := by
  rw [Closes, events_bind_ok f hx, effect_bind_ok f hx, he, h, List.append_assoc]

/-- A failure ends the log. -/
theorem bind_error {x : Job σ α} {s t : σ} {e : Failure} {told : List Event}
    (hx : effect x s = (.error e, t)) (he : events x s = told) (f : α → Job σ Summary) :
    (x >>= f).Closes s told := by
  rw [Closes, events_bind_error f hx, effect_bind_error f hx, he]
  exact (List.append_nil told).symm

end Job.Closes

/-- Where nothing else sums up, only the last event does, and it sums up the answer. -/
theorem getElem?_append_closing_iff {before : List Event} {r : Except Failure Summary}
    (h : ∀ summary, .conversionFinished summary ∉ before) (i : Nat) (summary : Summary) :
    (before ++ closing r)[i]? = some (.conversionFinished summary) ↔
      i + 1 = (before ++ closing r).length ∧ r = .ok summary := by
  have hbefore : before[i]? ≠ some (.conversionFinished summary) := fun hi =>
    h summary (List.mem_of_getElem? hi)
  cases r with
  | error e => simp [closing, hbefore]
  | ok found =>
    rw [closing, List.length_append, List.length_singleton]
    -- Before the last place nothing sums up, and past it there is nothing.
    rcases Nat.lt_trichotomy i before.length with hi | rfl | hi
    · rw [List.getElem?_append_left hi]
      exact iff_of_false hbefore fun hc => by omega
    · simp
    · have hlen : (before ++ [Event.conversionFinished found]).length ≤ i := by
        rw [List.length_append, List.length_singleton]
        omega
      rw [List.getElem?_eq_none hlen]
      exact iff_of_false nofun fun hc => by omega

namespace Cube

theorem events_build {s : Sequence} {side : Nat} {cube : Cube} (h : ofSequence s side = .ok cube) (st : σ) :
    Job.events (build s side) st = cube.notes s side := by
  rw [Job.events, build_of_ok h, Trace.events_ofEvents]

theorem events_build_of_error {s : Sequence} {side : Nat} {e : Failure} (h : ofSequence s side = .error e)
    (st : σ) : Job.events (build s side) st = [] := by
  rw [Job.events, build_of_error h, Trace.events_nil]

end Cube

namespace Converter

variable (c : Converter)

/-- What is told of a listing, up to the summing up. -/
def listingEvents (listing : Listing) (sink : Sink) : List Event :=
  .conversionStarted :: match Cube.ofSequence listing.sequence c.settings.side with
    | .ok cube => cube.notes listing.sequence c.settings.side ++ Job.events (c.writer c.settings cube) sink
    | .error _ => []

/-- What is told of reading and of the listing read, up to the summing up. -/
def readingEvents (read : Job Unit Listing) (sink : Sink) : List Event :=
  Job.events read () ++ match (Job.effect read ()).1 with
    | .ok listing => c.listingEvents listing sink
    | .error _ => []

/-- A writer tells what it likes, and the end of a run is told after it. -/
theorem write_closes (listing : Listing) (cube : Cube) (sink : Sink) :
    (c.write listing cube).Closes sink (Job.events (c.writer c.settings cube) sink) := by
  have hevents := Job.events_within .writeRecords (c.writer c.settings cube) sink
  cases hw : Job.effect (Job.within .writeRecords (c.writer c.settings cube)) sink with
  | mk result t =>
    cases result with
    | ok emitted =>
      rw [← List.append_nil (Job.events (c.writer c.settings cube) sink)]
      exact Job.Closes.bind hw hevents rfl
    | error e => exact Job.Closes.bind_error hw hevents _

theorem convertListing_closes (listing : Listing) (sink : Sink) :
    (c.convertListing listing).Closes sink (c.listingEvents listing sink) := by
  refine Job.Closes.bind (Job.effect_log .conversionStarted sink) (Job.events_log _ sink) ?_
  have hbuild : Job.effect (c.buildCube listing) sink =
      (Cube.ofSequence listing.sequence c.settings.side, sink) := Cube.effect_build _ _ sink
  have hevents : Job.events (c.buildCube listing) sink =
      Job.events (Cube.build listing.sequence c.settings.side) sink := Job.events_within _ _ sink
  cases hc : Cube.ofSequence listing.sequence c.settings.side with
  | ok cube =>
    rw [hc] at hbuild
    exact Job.Closes.bind hbuild (hevents.trans (Cube.events_build hc sink)) (c.write_closes listing cube sink)
  | error e =>
    rw [hc] at hbuild
    exact Job.Closes.bind_error hbuild (hevents.trans (Cube.events_build_of_error hc sink)) _

theorem read_convert_closes (read : Job Unit Listing) (sink : Sink) :
    (do let listing ← Job.beside (.within .readListing read); c.convertListing listing).Closes sink
      (c.readingEvents read sink) := by
  have hread : Job.effect (Job.beside (.within .readListing read)) sink = ((Job.effect read ()).1, sink) := rfl
  have hevents : Job.events (Job.beside (.within .readListing read)) sink = Job.events read () :=
    Job.events_within .readListing read ()
  rw [readingEvents]
  cases hr : (Job.effect read ()).1 with
  | ok listing =>
    rw [hr] at hread
    exact Job.Closes.bind hread hevents (c.convertListing_closes listing sink)
  | error e =>
    rw [hr] at hread
    rw [List.append_nil]
    exact Job.Closes.bind_error hread hevents _

theorem events_check (s : σ) : Job.events c.check s = [] := rfl

variable {c}

theorem effect_check_of_ok (h : c.settings.check = .ok ()) (s : σ) : Job.effect c.check s = (.ok (), s) := by
  rw [check, Job.effect_ofExcept, h]

/-- A valid conversion tells of reading and of what comes of it. -/
theorem convert_closes (h : c.settings.check = .ok ()) (source : Source) (sink : Sink) :
    (c.convert source).Closes sink (c.readingEvents (c.read source) sink) :=
  (Job.Closes.bind (effect_check_of_ok h sink) (events_check c sink)
    (c.read_convert_closes (c.read source) sink)).within _

/-- The conversion of a file tells of the file first. -/
theorem convertFile_closes (h : c.settings.check = .ok ()) (store : Store) (path : String) (sink : Sink) :
    (c.convertFile store path).Closes sink
      (.fileStarted path none :: c.readingEvents (c.readPath store path) sink) :=
  (Job.Closes.bind (effect_check_of_ok h sink) (events_check c sink)
    (Job.Closes.bind (Job.effect_log (.fileStarted path none) sink) (Job.events_log _ sink)
      (c.read_convert_closes (c.readPath store path) sink))).within _

section

variable {store : Store} {path : String} (sink : Sink)

theorem readingEvents_of_opened {source : Source} (h : store.openSource path = .ok source) :
    c.readingEvents (c.readPath store path) sink = c.readingEvents (c.read source) sink := by
  have hevents : Job.events (c.readPath store path) () = Job.events (c.read source) () := by
    rw [Job.events, c.readPath_apply_of_opened h]
    rfl
  rw [readingEvents, hevents, c.effect_readPath_of_opened h]
  rfl

/-- A missing input that counts as empty is warned of, and nothing is read. -/
theorem readingEvents_of_missing {cause : SystemError} (h : store.openSource path = .error cause)
    (hm : c.settings.missingInput = .empty) : c.readingEvents (c.readPath store path) sink =
      .inputMissing path cause :: c.listingEvents .empty sink := by
  have hread := c.readPath_apply_of_unopened h
  rw [hm] at hread
  simp only [readingEvents, Job.events, Job.effect, hread]
  rfl

theorem readingEvents_of_unreadable {cause : SystemError} (h : store.openSource path = .error cause)
    (hm : c.settings.missingInput = .fail) : c.readingEvents (c.readPath store path) sink = [] := by
  have hread := c.readPath_apply_of_unopened h
  rw [hm] at hread
  simp only [readingEvents, Job.events, Job.effect, hread]
  rfl

end

/-- Settings that are refused are all that there is to a run. -/
theorem events_of_refused {e : Failure} (h : c.settings.check = .error e) (source : Source) (store : Store)
    (path : String) (sink : Sink) :
    Job.events (c.convert source) sink = [] ∧ Job.events (c.convertFile store path) sink = [] := by
  have hcheck : Job.effect c.check sink = (.error e, sink) := by
    rw [check, Job.effect_ofExcept, h]
  refine ⟨?_, ?_⟩
  · rw [convert, Job.events_within, Job.events_bind_error _ hcheck, events_check]
  · rw [convertFile, Job.events_within, Job.events_bind_error _ hcheck, events_check]

end Converter

end ColorCube
