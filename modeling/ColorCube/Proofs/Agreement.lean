import Mathlib.Data.List.Basic
import ColorCube.Proofs.Files
import ColorCube.Proofs.Stages

/-!
# Agreement

Whether it goes from bytes or from a file, and to a stream or to a file, a run gathers a listing and its cube
and then writes them. An output file is created in between, when all that is read has been read: so it can be
the input file.
-/

namespace ColorCube

variable {σ α β γ : Type}

/-- Work that goes on with an answer. A failure ends it and leaves the state as it is. -/
def continued (r : Except Failure α) (s : σ) (work : α → Except Failure β × σ) : Except Failure β × σ :=
  match r with
  | .ok a => work a
  | .error e => (.error e, s)

theorem continued_bind (r : Except Failure α) (f : α → Except Failure β) (s : σ)
    (work : β → Except Failure γ × σ) :
    continued (r >>= f) s work = continued r s fun a => continued (f a) s work := by
  cases r <;> rfl

theorem Job.effect_bind_continued {x : Job σ α} {r : Except Failure α} {s : σ} (h : effect x s = (r, s))
    (f : α → Job σ β) : effect (x >>= f) s = continued r s fun a => effect (f a) s := by
  rw [effect_bind, h]
  cases r <;> rfl

/-- A job that writes one text and gives one result wherever the text is taken. -/
def Job.Adds (x : Job Sink α) (text : List UInt8) (result : Except Failure α) : Prop :=
  ∀ sink : Sink, sink.limit = none → sink.flushFault = none →
    Job.effect x sink = (result, (sink.write text).1)

namespace Job.Adds

variable {x : Job Sink α} {text : List UInt8}

theorem fail (e : Failure) : (Job.fail e : Job Sink α).Adds [] (.error e) := by
  intro sink hlimit hflush
  rw [Job.effect_fail, Sink.write_nil]

theorem log (event : Event) : (Job.log event).Adds [] (.ok ()) := by
  intro sink hlimit hflush
  rw [Job.effect_log, Sink.write_nil]

theorem writeLines (ls : List (List Char)) : (Sink.writeLines ls).Adds (Sink.textOf ls) (.ok ls.length) := by
  intro sink hlimit hflush
  rw [Sink.effect_writeLines, Sink.fault?, hlimit, hflush]

/-- Texts that are written one after the other. -/
theorem bind {a : α} {f : α → Job Sink β} {rest : List UInt8} {result : Except Failure β}
    (h : x.Adds text (.ok a)) (hf : (f a).Adds rest result) : (x >>= f).Adds (text ++ rest) result := by
  intro sink hlimit hflush
  have hwrite : sink.write text = ((sink.write text).1, none) := by
    rw [Sink.write, hlimit]
  have hnext : (sink.write text).1.limit = none := by
    rw [Sink.write, hlimit]
  rw [Job.effect_bind_ok f (h sink hlimit hflush), hf _ hnext ((Sink.flushFault_write _ _).trans hflush),
    Sink.write_append_of_none rest hwrite]

end Job.Adds

/-- A writer whose text and result depend on settings and cube only. -/
def Writer.IsDetermined (writer : Writer) : Prop :=
  ∀ settings cube, ∃ text result, (writer settings cube).Adds text result

theorem initializerWriter_adds (settings : Settings) (cube : Cube) :
    let records := (cube.traverse settings.order).map Color.render
    (initializerWriter settings cube).Adds (Sink.textOf records) (.ok records.length) :=
  (Job.Adds.log (.writingStarted cube.size settings.order)).bind (Job.Adds.writeLines _)

theorem initializerWriter_isDetermined : Writer.IsDetermined initializerWriter :=
  fun settings cube => ⟨_, _, initializerWriter_adds settings cube⟩

namespace Converter

variable (c : Converter) {source : Source}

/-- The listing that is read from a source and the cube of it. -/
def content (source : Source) : Except Failure (Listing × Cube) := do
  let listing ← (c.reader c.settings source ()).result
  let cube ← Cube.ofSequence listing.sequence c.settings.side
  return (listing, cube)

/-- What a run has when it gets to writing. -/
def gathered (source : Source) : Except Failure (Listing × Cube) := do
  c.settings.check
  c.content source

theorem gathered_of_ok {listing : Listing} {cube : Cube} (hv : c.settings.check = .ok ())
    (hr : (c.reader c.settings source ()).result = .ok listing)
    (hc : Cube.ofSequence listing.sequence c.settings.side = .ok cube) :
    c.gathered source = .ok (listing, cube) := by
  simp only [gathered, content, hv, hr, hc, bind, Except.bind, pure, Except.pure]

theorem gathered_of_reachesWriter {listing : Listing}
    (h : ReachesWriter c.settings c.reader source listing) :
    ∃ cube : Cube, cube.Holds listing.sequence c.settings.side ∧
      c.gathered source = .ok (listing, cube) := by
  obtain ⟨hv, hr, cube, hc⟩ := reachesWriter_iff.mp h
  exact ⟨cube, Cube.holds_of_ofSequence hc, c.gathered_of_ok hv hr hc⟩

theorem gathered_of_not_reachesWriter
    (h : ∀ listing, ¬ ReachesWriter c.settings c.reader source listing) :
    ∃ e, c.gathered source = .error e := by
  cases hv : c.settings.check with
  | error e => exact ⟨e, by rw [gathered, hv]; rfl⟩
  | ok =>
    cases hr : (c.reader c.settings source ()).result with
    | error e => exact ⟨e, by rw [gathered, content, hv, hr]; rfl⟩
    | ok listing =>
      cases hc : Cube.ofSequence listing.sequence c.settings.side with
      | error e => exact ⟨e, by simp only [gathered, content, hv, hr, hc, bind, Except.bind]⟩
      | ok cube => exact absurd (reachesWriter_iff.mpr ⟨hv, hr, cube, hc⟩) (h listing)

theorem effect_buildCube_bind (listing : Listing) (f : Cube → Job σ α) (s : σ) :
    Job.effect (c.buildCube listing >>= f) s =
      continued (Cube.ofSequence listing.sequence c.settings.side) s fun cube => Job.effect (f cube) s := by
  have h : Job.effect (c.buildCube listing) s =
      (Cube.ofSequence listing.sequence c.settings.side, s) := by
    rw [buildCube, Job.effect_within, Cube.effect_build]
  exact Job.effect_bind_continued h f

/-- To read, and to go on with the cube of what was read. -/
theorem effect_read_bind {read : Job Unit Listing}
    (hread : Job.effect read () = ((c.reader c.settings source ()).result, ()))
    {rest : Listing → Job σ α} {work : Listing × Cube → Except Failure α × σ} (s : σ)
    (hrest : ∀ listing, Job.effect (rest listing) s =
      continued (Cube.ofSequence listing.sequence c.settings.side) s fun cube => work (listing, cube)) :
    Job.effect (Job.beside (.within .readListing read) >>= rest) s =
      continued (c.content source) s work := by
  have h : Job.effect (Job.beside (.within .readListing read)) s =
      ((c.reader c.settings source ()).result, s) := by
    rw [Job.effect_beside, Job.effect_within, hread]
  rw [Job.effect_bind_continued h, content, continued_bind]
  congr 1
  funext listing
  rw [hrest, continued_bind]
  rfl

theorem effect_convertListing_continued (listing : Listing) (sink : Sink) :
    Job.effect (c.convertListing listing) sink =
      continued (Cube.ofSequence listing.sequence c.settings.side) sink fun cube =>
        Job.effect (c.write listing cube) sink := by
  rw [convertListing, Job.effect_bind_ok _ (Job.effect_log _ sink)]
  exact c.effect_buildCube_bind listing _ sink

theorem effect_check_bind (f : Unit → Job σ α) (s : σ) :
    Job.effect (c.check >>= f) s = continued c.settings.check s fun _ => Job.effect (f ()) s :=
  Job.effect_bind_continued (Job.effect_ofExcept _ s) f

theorem effect_convert_gathered (source : Source) (sink : Sink) :
    Job.effect (c.convert source) sink =
      continued (c.gathered source) sink fun found => Job.effect (c.write found.1 found.2) sink := by
  rw [convert, Job.effect_within, effect_check_bind, gathered, continued_bind]
  congr 1
  funext
  exact c.effect_read_bind rfl sink fun listing => c.effect_convertListing_continued listing sink

theorem effect_readPath_of_opened {store : Store} {path : String} (h : store.openSource path = .ok source) :
    Job.effect (c.readPath store path) () = ((c.reader c.settings source ()).result, ()) := by
  rw [Job.effect, c.readPath_apply_of_opened h]

/-- A file is converted as its bytes are. -/
theorem effect_convertFile_of_opened {store : Store} {path : String}
    (h : store.openSource path = .ok source) (sink : Sink) :
    Job.effect (c.convertFile store path) sink = Job.effect (c.convert source) sink := by
  rw [effect_convert_gathered, convertFile, Job.effect_within, effect_check_bind, gathered, continued_bind]
  congr 1
  funext
  rw [Job.effect_bind_ok _ (Job.effect_log _ sink)]
  exact c.effect_read_bind (c.effect_readPath_of_opened h) sink fun listing =>
    c.effect_convertListing_continued listing sink

/-- A run to a file writes to a sink on the medium of the file, once the file is there. -/
theorem effect_convertFileTo_of_opened {store : Store} {input output : String} {target : Location}
    (h : store.openSource input = .ok source) (hl : store.locate output = .ok target) :
    Job.effect (c.convertFileTo input output) store =
      continued (c.gathered source) store fun found =>
        let done := Job.effect (c.write found.1 found.2) (store.medium target).sink
        (done.1, (store.put target (.file [])).put target (.file done.2.written)) := by
  have hcreate : Job.effect (Job.within .createOutput (Store.create output)) store =
      (.ok target, store.put target (.file [])) := by
    rw [Job.effect_within, Store.effect_create, hl]
  rw [convertFileTo, Job.effect_within, effect_check_bind, gathered, continued_bind]
  congr 1
  funext
  rw [Job.effect_bind_ok _ (Job.effect_log _ store), Job.effect_bind_ok _ (Job.effect_get store)]
  refine c.effect_read_bind (c.effect_readPath_of_opened h) store fun listing => ?_
  rw [effect_buildCube_bind]
  congr 1
  funext cube
  rw [Job.effect_bind_ok _ hcreate, Store.effect_writingTo]
  rfl

variable {listing : Listing} {cube : Cube} {text : List UInt8} {result : Except Failure Nat}

/-- What a writer leaves and how it fails is what a run leaves and how that fails. -/
theorem effect_write_eq (listing : Listing) (cube : Cube) (sink : Sink) :
    let call := c.writer c.settings cube sink
    Job.effect (c.write listing cube) sink = (call.result.map (summed listing), call.state) := by
  intro call
  have hcall : Job.effect (Job.within .writeRecords (c.writer c.settings cube)) sink =
      (call.result, call.state) := rfl
  rw [write, Job.effect_bind, hcall]
  cases call.result <;> rfl

theorem write_adds (listing : Listing) (h : (c.writer c.settings cube).Adds text result) :
    (c.write listing cube).Adds text (result.map (summed listing)) := by
  intro sink hlimit hflush
  have hcall := h sink hlimit hflush
  rw [Job.effect, Prod.mk.injEq] at hcall
  rw [effect_write_eq, hcall.1, hcall.2]

theorem effect_convert_of_adds (hg : c.gathered source = .ok (listing, cube))
    (hw : (c.writer c.settings cube).Adds text result) {sink : Sink} (hlimit : sink.limit = none)
    (hflush : sink.flushFault = none) :
    Job.effect (c.convert source) sink = (result.map (summed listing), (sink.write text).1) := by
  rw [effect_convert_gathered, hg]
  exact c.write_adds listing hw sink hlimit hflush

theorem effect_convertFileTo_of_adds {store : Store} {input output : String} {target : Location}
    (hopen : store.openSource input = .ok source) (hl : store.locate output = .ok target)
    (hg : c.gathered source = .ok (listing, cube)) (hw : (c.writer c.settings cube).Adds text result)
    (hmedium : (store.medium target).writeFault = none) :
    Job.effect (c.convertFileTo input output) store =
      (result.map (summed listing), (store.put target (.file [])).put target (.file text)) := by
  have hwritten : ((store.medium target).sink.write text).1.written = text := by
    rw [Sink.written_write, Sink.accepted, Medium.sink, hmedium]
    rfl
  have h := c.write_adds listing hw (store.medium target).sink hmedium rfl
  rw [c.effect_convertFileTo_of_opened hopen hl, hg, continued, h]
  simp only [hwritten]

/-- Neither a stream nor a file is touched by a run that does not get to its writer. -/
theorem effects_of_not_reachesWriter {store : Store} {input output : String} {target : Location}
    (hopen : store.openSource input = .ok source) (hl : store.locate output = .ok target) (sink : Sink)
    (h : ∀ listing, ¬ ReachesWriter c.settings c.reader source listing) :
    ∃ e, Job.effect (c.convert source) sink = (.error e, sink) ∧
      Job.effect (c.convertFileTo input output) store = (.error e, store) := by
  obtain ⟨e, hg⟩ := c.gathered_of_not_reachesWriter h
  refine ⟨e, ?_, ?_⟩
  · rw [effect_convert_gathered, hg, continued]
  · rw [c.effect_convertFileTo_of_opened hopen hl, hg, continued]

/-- The three conversions of a file agree: to a stream, from the file or from its bytes, and to a file, which may
be the input itself. When a run gets to its writer, what it adds to a stream is what the output file holds
afterwards, also if the writer fails then, and no other file is touched. When it does not, none is. -/
theorem conversions_agree (store : Store) (input output : String) (place target : Location)
    (bytes : List UInt8) (sink : Sink) (hwriter : c.writer.IsDetermined)
    (hinput : store.resolve input = .ok (place, .file bytes))
    (houtput : store.locate output = .ok target)
    (hmedium : (store.medium target).writeFault = none)
    (hlimit : sink.limit = none) (hflush : sink.flushFault = none) :
    let source := (store.medium place).source bytes
    let direct := c.convert source sink
    let toStream := c.convertFile store input sink
    let toFile := c.convertFileTo input output store
    ((store.medium place).readFault = none → source = { bytes := bytes }) ∧
    toStream.result = direct.result ∧ toStream.state = direct.state ∧
    toFile.result = direct.result ∧
    (∀ listing, ReachesWriter c.settings c.reader source listing →
      ∃ (cube : Cube) (text : List UInt8) (result : Except Failure Nat),
        cube.Holds listing.sequence c.settings.side ∧ (c.writer c.settings cube).Adds text result ∧
        direct.result = result.map (summed listing) ∧ direct.state.written = sink.written ++ text ∧
        ∀ l, toFile.state.node? l = if l = target then some (.file text) else store.node? l) ∧
    ((∀ listing, ¬ ReachesWriter c.settings c.reader source listing) →
      direct.state = sink ∧ toFile.state = store) := by
  intro source direct toStream toFile
  have hopen : store.openSource input = .ok source := Store.openSource_of_resolve hinput
  have hstream := c.effect_convertFile_of_opened hopen sink
  have hreach : ∀ listing, ReachesWriter c.settings c.reader source listing →
      ∃ (cube : Cube) (text : List UInt8) (result : Except Failure Nat),
        cube.Holds listing.sequence c.settings.side ∧ (c.writer c.settings cube).Adds text result ∧
        Job.effect (c.convert source) sink = (result.map (summed listing), (sink.write text).1) ∧
        Job.effect (c.convertFileTo input output) store =
          (result.map (summed listing), (store.put target (.file [])).put target (.file text)) := by
    intro listing h
    obtain ⟨cube, hholds, hg⟩ := c.gathered_of_reachesWriter h
    obtain ⟨text, result, hw⟩ := hwriter c.settings cube
    exact ⟨cube, text, result, hholds, hw, c.effect_convert_of_adds hg hw hlimit hflush,
      c.effect_convertFileTo_of_adds hopen houtput hg hw hmedium⟩
  have hmiss := c.effects_of_not_reachesWriter hopen houtput sink
  refine ⟨?_, congrArg Prod.fst hstream, congrArg Prod.snd hstream, ?_, ?_, ?_⟩
  · intro hread
    simp only [source, Medium.source, hread]
  · by_cases h : ∃ listing, ReachesWriter c.settings c.reader source listing
    · obtain ⟨listing, h⟩ := h
      obtain ⟨cube, text, result, -, -, hd, hf⟩ := hreach listing h
      exact (congrArg Prod.fst hf).trans (congrArg Prod.fst hd).symm
    · obtain ⟨e, hd, hf⟩ := hmiss (not_exists.mp h)
      exact (congrArg Prod.fst hf).trans (congrArg Prod.fst hd).symm
  · intro listing h
    obtain ⟨cube, text, result, hholds, hw, hd, hf⟩ := hreach listing h
    refine ⟨cube, text, result, hholds, hw, congrArg Prod.fst hd, ?_, fun l => ?_⟩
    · have hs : direct.state = (sink.write text).1 := congrArg Prod.snd hd
      rw [hs, Sink.written_write, Sink.accepted, hlimit]
    · have hs : toFile.state = (store.put target (.file [])).put target (.file text) :=
        congrArg Prod.snd hf
      rw [hs, Store.node?_put_put _ (Store.ne_nil_of_locate houtput)]
  · intro h
    obtain ⟨e, hd, hf⟩ := hmiss h
    exact ⟨congrArg Prod.snd hd, congrArg Prod.snd hf⟩

/-- A file that is converted into itself by a writer that writes the cube, and by one that then fails: either way it
holds the record of its one line, and the run ends as the writer does. -/
theorem conversions_agree_in_place :
    let settings : Settings := ⟨.ofNat 8, 1, .rgb, .fail⟩
    let full : Failure := .io (.stream "full")
    let writer : Writer := fun settings cube => do
      let _ ← initializerWriter settings cube
      Job.fail full
    let c : Converter := { settings := settings, writer := writer }
    let builtIn : Converter := { settings := settings }
    let bytes := encodeUtf8 "1 2 3\n".toList
    let store : Store := { nodes := [(["lut.txt"], .file bytes)] }
    let record := Sink.textOf
      ["\t\x7b .red = 0.125000, .green = 0.250000, .blue = 0.375000 \x7d,".toList]
    let failed := c.convertFileTo "lut.txt" "./lut.txt" store
    let done := builtIn.convertFileTo "lut.txt" "./lut.txt" store
    store.resolve "lut.txt" = .ok (["lut.txt"], .file bytes) ∧
    store.locate "./lut.txt" = .ok ["lut.txt"] ∧
    failed.result = .error full ∧ failed.state.node? ["lut.txt"] = some (.file record) ∧
    done.result = .ok ⟨1, 0, 1⟩ ∧ done.state.node? ["lut.txt"] = some (.file record) := by
  intro settings full writer c builtIn bytes store record failed done
  have hadds : ∀ settings cube, (writer settings cube).Adds _ (.error full) :=
    fun settings cube => (initializerWriter_adds settings cube).bind (Job.Adds.fail full)
  have hinput : store.resolve "lut.txt" = .ok (["lut.txt"], .file bytes) := rfl
  have houtput : store.locate "./lut.txt" = .ok ["lut.txt"] := rfl
  have hlisting : ReachesWriter settings textReader { bytes := bytes }
      (Listing.ofLines (.ofNat 8) (Source.lines { bytes := bytes } |>.map decodeUtf8) 1) := by
    refine ⟨?_, rfl, by decide, by decide +kernel⟩
    rw [Settings.check_eq_ok_iff]
    decide +kernel
  obtain ⟨-, -, -, hfailed, hreach, -⟩ := c.conversions_agree store "lut.txt" "./lut.txt" ["lut.txt"]
    ["lut.txt"] bytes {} (fun settings cube => ⟨_, _, hadds settings cube⟩) hinput houtput rfl rfl rfl
  obtain ⟨-, -, -, hdone, hreach', -⟩ := builtIn.conversions_agree store "lut.txt" "./lut.txt" ["lut.txt"]
    ["lut.txt"] bytes {} initializerWriter_isDetermined hinput houtput rfl rfl rfl
  obtain ⟨cube, text, result, -, hw, hresult, htext, hnode⟩ := hreach _ hlisting
  obtain ⟨-, text', -, -, -, -, htext', hnode'⟩ := hreach' _ hlisting
  have hfails : result = .error full :=
    congrArg Prod.fst ((hw {} rfl rfl).symm.trans (hadds c.settings cube {} rfl rfl))
  have hsame : text = record := htext.symm.trans (by decide +kernel)
  have hsame' : text' = record := htext'.symm.trans (by decide +kernel)
  have hsummary : (builtIn.convert { bytes := bytes } {}).result = .ok ⟨1, 0, 1⟩ := by decide +kernel
  rw [hfails] at hresult
  rw [hsame] at hnode
  rw [hsame'] at hnode'
  exact ⟨hinput, houtput, hfailed.trans hresult, hnode ["lut.txt"], hdone.trans hsummary, hnode' ["lut.txt"]⟩

end Converter

end ColorCube
