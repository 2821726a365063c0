import ColorCube.Proofs.Runs

/-!
# Verdicts

Each of the four ways to run a converter answers the first of its causes that applies. Only a sink that
fails can do so after something has been written; a cause from before leaves sink and files untouched. Whether an
input opens and an output file is created is a matter of what stands where their paths lead to.
-/

namespace ColorCube

variable {σ α : Type}

/-- A run answers the first cause that applies, or else its answer. A cause from before the writing leaves
the state untouched. -/
structure Decides (run : Job.Outcome σ α) (before : List (Option Failure)) (writing : Option Failure)
    (answer : α) (untouched written : σ) : Prop where
  result : run.result = verdict (before ++ [writing]) answer
  state : run.state = if firstCause before = none then written else untouched

theorem decides_of_effect {x : Job σ α} {s t : σ} {before : List (Option Failure)}
    {writing : Option Failure} {answer : α}
    (h : Job.effect x s = guarded before s (verdict [writing] answer, t)) :
    Decides (x s) before writing answer s t := by
  have hr := congrArg Prod.fst h
  have hs := congrArg Prod.snd h
  unfold guarded at hr hs
  constructor
  · rw [verdict, firstCause_append]
    cases hb : firstCause before with
    | some e =>
      rw [hb] at hr
      exact hr
    | none =>
      rw [hb] at hr
      exact hr
  · cases hb : firstCause before with
    | some e =>
      rw [hb] at hs
      exact hs
    | none =>
      rw [hb] at hs
      exact hs

/-- The verdict of every run, whatever the settings, the files, the source and the sink. An input opens if its path
leads to a file or a directory that is not closed, and an output file is created if its path leads to a place that is
not closed either, with a file or with nothing there. -/
theorem Converter.every_run_decides (settings : Settings) (store : Store) (source : Source)
    (sink : Sink) (input output : String) (offset : Nat) :
    let converter : Converter := { settings := settings }
    let fullScale := settings.fullScale
    let file := store.sourceAt input
    let linesOf (source : Source) : List (List Char) :=
      gridLines settings.order settings.side (source.colors fullScale)
    let summary (source : Source) : Summary :=
      { records := (source.colors fullScale).length
        skipped := source.lines.length - (source.colors fullScale).length
        emitted := settings.side ^ 3 }
    let probed := probeLines settings.side offset (file.colors fullScale)
    Decides (converter.convert source sink)
      (settings.causes ++ [source.cause?] ++
        cubeCauses settings.side (source.colors fullScale).length)
      (sink.cause? (Sink.textOf (linesOf source))) (summary source)
      sink (sink.write (Sink.textOf (linesOf source))).1 ∧
    Decides (converter.convertFile store input sink)
      (settings.causes ++ [store.openCause? settings.missingInput input, file.cause?] ++
        cubeCauses settings.side (file.colors fullScale).length)
      (sink.cause? (Sink.textOf (linesOf file))) (summary file)
      sink (sink.write (Sink.textOf (linesOf file))).1 ∧
    Decides (converter.convertFileTo input output store)
      (settings.causes ++ [store.openCause? settings.missingInput input, file.cause?] ++
        cubeCauses settings.side (file.colors fullScale).length ++ [store.createCause? output])
      ((store.outputSink output).cause? (Sink.textOf (linesOf file))) (summary file)
      store
      (store.withOutput output ((store.outputSink output).accepted (Sink.textOf (linesOf file)))) ∧
    Decides (converter.probeFile store input offset sink)
      (settings.causes ++ [store.openCause? .fail input, file.cause?] ++
        probeCauses settings.side offset)
      (sink.cause? (Sink.textOf probed)) probed.length
      sink (sink.write (Sink.textOf probed)).1 ∧
    ({ bytes := [] } : Source).colors fullScale = [] ∧
    (∀ text, (sink.write text).1.written = sink.written ++ sink.accepted text) ∧
    (∀ bytes l, (store.withOutput output bytes).node? l =
      if (store.locate output).toOption = some l then some (.file bytes) else store.node? l) ∧
    (∀ opened, store.openSource input = .ok opened ↔ ∃ place,
      (∃ bytes, store.Opens input place (.file bytes) ∧ opened = (store.medium place).source bytes) ∨
      store.Opens input place .directory ∧ opened = { bytes := [], fault := some (.system .isDirectory) }) ∧
    (∀ place, store.locate output = .ok place ↔ store.Creates output place) := by
  intro converter fullScale file linesOf summary probed
  refine ⟨?_, ?_, ?_, ?_, ?_, ?_, ?_, ?_, ?_⟩
  · exact decides_of_effect (effect_convert settings source sink)
  · exact decides_of_effect (effect_convertFile settings store input sink)
  · exact decides_of_effect (effect_convertFileTo settings store input output)
  · exact decides_of_effect (effect_probeFile settings store input offset sink)
  · simp [Source.colors, Source.lines]
  · exact sink.written_write
  · exact store.node?_withOutput output
  · exact fun opened => Store.openSource_eq_ok_iff
  · exact fun place => Store.locate_eq_ok_iff

end ColorCube
