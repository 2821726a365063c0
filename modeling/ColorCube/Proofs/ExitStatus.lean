import Mathlib.Data.List.Basic
import ColorCube.CommandLine.Run
import ColorCube.Proofs.Runs

/-!
# Exit status

A run of the command line makes one call to a converter. Its exit status says whether the call succeeds, and what
the call writes to its stream is all of standard output. Where all that is written is taken, a call fails before
it writes or not at all: so a failed run leaves standard output empty and the files alone.
-/

namespace ColorCube

variable {σ α : Type}

/-- Work that answers well once it is done fails only by not being done. -/
theorem eq_of_guarded_eq_error {causes : List (Option Failure)} {s t : σ} {a : α} {e : Failure}
    {work : Except Failure α × σ} (hwork : work.1 = .ok a) (h : guarded causes s work = (.error e, t)) :
    t = s := by
  unfold guarded at h
  cases hc : firstCause causes with
  | some e' =>
    rw [hc] at h
    exact (congrArg Prod.snd h).symm
  | none =>
    rw [hc] at h
    have herror : work.1 = .error e := congrArg Prod.fst h
    rw [hwork] at herror
    cases herror

theorem exists_guarded_eq_error {causes : List (Option Failure)} (h : firstCause causes ≠ none) (s : σ)
    (work : Except Failure α × σ) : ∃ e, guarded causes s work = (.error e, s) := by
  cases hc : firstCause causes with
  | none => exact absurd hc h
  | some e => exact ⟨e, by rw [guarded, hc]⟩

/-- A job before others that neither fail nor change anything. -/
theorem Job.effect_bind_unit {x : Job σ α} {f : α → Job σ Unit}
    (h : ∀ a s, effect (f a) s = (.ok (), s)) (s : σ) :
    effect (x >>= f) s = ((effect x s).1.map fun _ => (), (effect x s).2) := by
  rw [effect_bind]
  rcases effect x s with ⟨e | a, s'⟩
  · rfl
  · exact h a s'

/-- A created file takes all that is written, on a medium that does. -/
theorem Store.cause?_outputSink {store : Store} {output : String}
    (h : ∀ place, store.locate output = .ok place → (store.medium place).writeFault = none)
    (text : List UInt8) : (store.outputSink output).cause? text = none := by
  unfold outputSink
  cases hl : store.locate output with
  | error e => rfl
  | ok place => simp [Sink.cause?, Sink.fault?, Medium.sink, h place hl]

namespace Converter

variable (settings : Settings) {store : Store} {path : String} {e : Failure}

/-- Calls on an empty stream that fail leave it empty. -/
theorem state_of_error {x : Job Sink α} {causes : List (Option Failure)} {text : List UInt8} {answer : α}
    (h : Job.effect x {} = guarded causes {} (Sink.taking {} text answer)) (he : (x {}).result = .error e) :
    (x {}).state = {} := by
  have heffect := Job.effect_of_result he
  rw [h] at heffect
  exact eq_of_guarded_eq_error (Sink.taking_of_unfailing text answer rfl rfl).1 heffect

/-- A conversion to a file that fails leaves the files as they are, if the file would take all that is written. -/
theorem state_convertFileTo_of_error {output : String}
    (h : ∀ place, store.locate output = .ok place → (store.medium place).writeFault = none)
    (he : ((standard settings).convertFileTo path output store).result = .error e) :
    ((standard settings).convertFileTo path output store).state = store := by
  have heffect := Job.effect_of_result he
  rw [effect_convertFileTo, Store.cause?_outputSink h] at heffect
  exact eq_of_guarded_eq_error rfl heffect

/-- Without a color there is no cube of any side. -/
theorem firstCause_listingCauses_ne_none {source : Source} (h : source.colors settings.fullScale = [])
    (read : List (Option Failure)) : firstCause (listingCauses settings read source) ≠ none := by
  intro hc
  rw [firstCause_eq_none_iff] at hc
  -- A side of zero is refused with the settings, and every other side asks for at least one entry.
  have hside := hc (cause (settings.side = 0) (.invalidSide 0)) (by simp [listingCauses, Settings.causes])
  have hentries := hc (cause (0 < settings.side ^ 3) (.insufficientData (settings.side ^ 3) 0))
    (by simp [listingCauses, cubeCauses, h])
  rw [cause_eq_none_iff] at hside hentries
  exact hentries (Nat.pow_pos (Nat.pos_of_ne_zero hside))

section Unopened

variable {reason : SystemError} (h : store.openSource path = .error reason)

include h

-- What is read in place of the file is empty, whether the input may be missing or not. So it is the lack of
-- entries, and not the settings for a missing input, that fails both conversions.
theorem colors_sourceAt_of_unopened : (store.sourceAt path).colors settings.fullScale = [] := by
  simp only [Store.sourceAt, h]
  exact acceptedColors_nil settings.fullScale

theorem convertFile_fails_of_unopened (sink : Sink) :
    ∃ e, ((standard settings).convertFile store path sink).result = .error e := by
  have hcauses := firstCause_listingCauses_ne_none settings (colors_sourceAt_of_unopened settings h)
    [store.openCause? settings.missingInput path]
  obtain ⟨e, he⟩ := exists_guarded_eq_error hcauses sink _
  exact ⟨e, congrArg Prod.fst ((effect_convertFile settings store path sink).trans he)⟩

theorem convertFileTo_fails_of_unopened (output : String) :
    ∃ e, ((standard settings).convertFileTo path output store).result = .error e := by
  have hcauses := firstCause_listingCauses_ne_none settings (colors_sourceAt_of_unopened settings h)
    [store.openCause? settings.missingInput path]
  obtain ⟨e, he⟩ := exists_guarded_eq_error hcauses store _
  have heffect := effect_convertFileTo settings store path output
  rw [guarded_append, he] at heffect
  exact ⟨e, congrArg Prod.fst heffect⟩

theorem probeFile_fails_of_unopened (offset : Nat) (sink : Sink) :
    ∃ e, ((standard settings).probeFile store path offset sink).result = .error e := by
  have hopen : store.openCause? .fail path = some (.unreadableInput path reason) := by
    simp only [Store.openCause?, h]
  have hcauses : firstCause (probingCauses settings store path offset) ≠ none := by
    intro hc
    rw [firstCause_eq_none_iff] at hc
    have hread := hc (store.openCause? .fail path) (by simp [probingCauses])
    rw [hopen] at hread
    cases hread
  obtain ⟨e, he⟩ := exists_guarded_eq_error hcauses sink _
  exact ⟨e, congrArg Prod.fst ((effect_probeFile settings store path offset sink).trans he)⟩

end Unopened

end Converter

namespace CommandLine

theorem effect_noteRejected (s : Summary) (w : Workspace) : Job.effect (noteRejected s) w = (.ok (), w) := by
  unfold noteRejected
  split <;> rfl

section Perform

variable {o : Options} (store : Store)

/-- What is left of a run is what its call leaves. -/
theorem effect_perform_probe {offset : Nat} (h : o.probe = some offset) :
    let call := ({ settings := o.settings } : Converter).probeFile store o.input offset {}
    Job.effect (perform o) ⟨store, {}⟩ = (call.result.map fun _ => (), ⟨store, call.state⟩) := by
  intro call
  unfold perform
  rw [Job.effect_bind_ok _ (Job.effect_get _)]
  simp only [h]
  exact Job.effect_bind_unit (fun count w => Job.effect_log (.columnProbed count) w) _

theorem effect_perform_convertFileTo {output : String} (h : o.probe = none) (houtput : o.output = some output) :
    let call := ({ settings := o.settings } : Converter).convertFileTo o.input output store
    Job.effect (perform o) ⟨store, {}⟩ = (call.result.map fun _ => (), ⟨call.state, {}⟩) := by
  intro call
  unfold perform
  rw [Job.effect_bind_ok _ (Job.effect_get _)]
  simp only [h, houtput]
  exact Job.effect_bind_unit effect_noteRejected _

theorem effect_perform_convertFile (h : o.probe = none) (houtput : o.output = none) :
    let call := ({ settings := o.settings } : Converter).convertFile store o.input {}
    Job.effect (perform o) ⟨store, {}⟩ = (call.result.map fun _ => (), ⟨store, call.state⟩) := by
  intro call
  unfold perform
  rw [Job.effect_bind_ok _ (Job.effect_get _)]
  simp only [h, houtput]
  exact Job.effect_bind_unit effect_noteRejected _

end Perform

/-- The end of a run that makes one call: status 0 if it succeeds and 1 if not, with some bytes of standard output
and some files after a success, and with none and the files from before after a failure. -/
structure Exit.Reports (exit : Exit) (call : Job.Outcome σ α) (before : Store) (bytes : List UInt8)
    (after : Store) : Prop where
  status_eq_zero_iff : exit.status = 0 ↔ ∃ a, call.result = .ok a
  status_eq_one_iff : exit.status = 1 ↔ ∃ e, call.result = .error e
  of_status_zero : exit.status = 0 → exit.output = bytes ∧ exit.store = after
  of_status_one : exit.status = 1 → exit.output = [] ∧ exit.store = before

variable {filterText : Option String} {arguments : List String} {store : Store} {o : Options}

/-- A run ends as its call does. -/
theorem run_reports {call : Job.Outcome σ α} {w : Workspace} (hrequest : request arguments = .ok (.run o))
    (hperform : Job.effect (perform o) ⟨store, {}⟩ = (call.result.map fun _ => (), w))
    (hfailed : ∀ e, call.result = .error e → w = ⟨store, {}⟩) :
    (run filterText arguments store).Reports call store w.output.written w.store := by
  rw [Job.effect, Prod.mk.injEq] at hperform
  obtain ⟨hresult, hstate⟩ := hperform
  unfold run
  cases hcall : call.result with
  | ok a =>
    simp only [hrequest, hresult, hcall, hstate, Except.map]
    exact ⟨by simp [hcall], by simp [hcall], fun _ => ⟨rfl, rfl⟩, fun h => absurd h Nat.zero_ne_one⟩
  | error e =>
    simp only [hrequest, hresult, hcall, hstate, Except.map, hfailed e hcall]
    exact ⟨by simp [hcall], by simp [hcall], fun h => absurd h Nat.one_ne_zero, fun _ => ⟨rfl, rfl⟩⟩

section Calls

variable (hrequest : request arguments = .ok (.run o))

include hrequest

theorem run_reports_probeFile {offset : Nat} (h : o.probe = some offset) :
    let call := ({ settings := o.settings } : Converter).probeFile store o.input offset {}
    (run filterText arguments store).Reports call store call.state.written store := by
  intro call
  apply run_reports hrequest (effect_perform_probe store h)
  intro e he
  exact congrArg (Workspace.mk store)
    (Converter.state_of_error (Converter.effect_probeFile o.settings store o.input offset {}) he)

theorem run_reports_convertFileTo {output : String} (h : o.probe = none) (houtput : o.output = some output)
    (hmedium : ∀ place, store.locate output = .ok place → (store.medium place).writeFault = none) :
    let call := ({ settings := o.settings } : Converter).convertFileTo o.input output store
    (run filterText arguments store).Reports call store [] call.state := by
  intro call
  apply run_reports hrequest (effect_perform_convertFileTo store h houtput)
  intro e he
  exact congrArg (Workspace.mk · {}) (Converter.state_convertFileTo_of_error o.settings hmedium he)

theorem run_reports_convertFile (h : o.probe = none) (houtput : o.output = none) :
    let call := ({ settings := o.settings } : Converter).convertFile store o.input {}
    (run filterText arguments store).Reports call store call.state.written store := by
  intro call
  apply run_reports hrequest (effect_perform_convertFile store h houtput)
  intro e he
  exact congrArg (Workspace.mk store)
    (Converter.state_of_error (Converter.effect_convertFile o.settings store o.input {}) he)

end Calls

/-- What exit status, standard output and files tell of a run, whatever is logged. The run makes one call, a probe
if there is an offset and else a conversion, to the output file if there is one and else to standard output. The
status is 0 when the call succeeds and 1 when it fails. After a success standard output has what the call wrote to
its stream; after a failure it is empty, and no file has been touched. An input that cannot be opened fails every
run. -/
theorem exit_reports_call (filterText : Option String) (arguments : List String) (store : Store) (o : Options)
    (hrequest : request arguments = .ok (.run o))
    (hmedium : ∀ output place, o.output = some output → store.locate output = .ok place →
      (store.medium place).writeFault = none) :
    let settings : Settings :=
      { fullScale := o.maxValue
        side := o.side
        order := o.traversal
        missingInput := if o.allowMissing then .empty else .fail }
    let c : Converter := { settings := settings }
    let exit := run filterText arguments store
    (∀ offset, o.probe = some offset →
      let call := c.probeFile store o.input offset {}
      exit.Reports call store call.state.written store) ∧
    (∀ output, o.probe = none → o.output = some output →
      let call := c.convertFileTo o.input output store
      exit.Reports call store [] call.state) ∧
    (o.probe = none → o.output = none →
      let call := c.convertFile store o.input {}
      exit.Reports call store call.state.written store) ∧
    (∀ reason, store.openSource o.input = .error reason → exit.status = 1) := by
  intro settings c exit
  refine ⟨?_, ?_, ?_, ?_⟩
  · intro offset hp
    exact run_reports_probeFile hrequest hp
  · intro output hp ho
    exact run_reports_convertFileTo hrequest hp ho fun place => hmedium output place ho
  · intro hp ho
    exact run_reports_convertFile hrequest hp ho
  · intro reason hopen
    cases hp : o.probe with
    | some offset =>
      apply (run_reports_probeFile hrequest hp).status_eq_one_iff.mpr
      exact Converter.probeFile_fails_of_unopened settings hopen offset {}
    | none =>
      cases ho : o.output with
      | some output =>
        apply (run_reports_convertFileTo hrequest hp ho fun place => hmedium output place ho).status_eq_one_iff.mpr
        exact Converter.convertFileTo_fails_of_unopened settings hopen output
      | none =>
        apply (run_reports_convertFile hrequest hp ho).status_eq_one_iff.mpr
        exact Converter.convertFile_fails_of_unopened settings hopen {}

/-- One record that is written to a file, with everything logged, and the same run without the input file, which
fails though the input may be missing. -/
theorem exit_reports_call_of_one_record :
    let arguments := ["-vf", "lut.txt", "-t", "RGB", "--side=1", "--output", "out.h", "--allow-missing"]
    let o : Options := ⟨"lut.txt", .rgb, .ofNat 4095, 1, some "out.h", true, none, true⟩
    let store : Store := { nodes := [(["lut.txt"], .file (encodeUtf8 "4095 0 0\n".toList))] }
    let exit := run (some "trace") arguments store
    let missing := run none arguments {}
    request arguments = .ok (.run o) ∧ exit.status = 0 ∧ exit.output = [] ∧
    exit.store.node? ["out.h"] = some (.file (Sink.textOf
      ["\t\x7b .red = 1.000000, .green = 0.000000, .blue = 0.000000 \x7d,".toList])) ∧
    missing.status = 1 ∧ missing.output = [] ∧ missing.store.node? ["out.h"] = none := by
  intro arguments o store exit missing
  have hrequest : request arguments = .ok (.run o) := by rfl
  obtain ⟨-, hfile, -, -⟩ := exit_reports_call (some "trace") arguments store o hrequest fun _ _ _ _ => rfl
  obtain ⟨-, hmissing, -, hunopened⟩ := exit_reports_call none arguments {} o hrequest fun _ _ _ _ => rfl
  have hreports := hfile "out.h" rfl rfl
  have hfails := hmissing "out.h" rfl rfl
  have hopen : Store.openSource {} "lut.txt" = .error .notFound := rfl
  have hcall : (({ settings := o.settings } : Converter).convertFileTo "lut.txt" "out.h" store).result =
    .ok ⟨1, 0, 1⟩ := by decide +kernel
  have hstatus : exit.status = 0 := hreports.status_eq_zero_iff.mpr ⟨_, hcall⟩
  have hfailed : missing.status = 1 := hunopened .notFound hopen
  obtain ⟨houtput, hstore⟩ := hreports.of_status_zero hstatus
  obtain ⟨hempty, huntouched⟩ := hfails.of_status_one hfailed
  refine ⟨hrequest, hstatus, houtput, ?_, hfailed, hempty, ?_⟩
  · rw [hstore]
    decide +kernel
  · rw [huntouched]
    rfl

end CommandLine

end ColorCube
