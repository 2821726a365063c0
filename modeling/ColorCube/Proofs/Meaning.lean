import ColorCube.Proofs.RecordText
import ColorCube.Proofs.Runs

/-!
# The meaning of a conversion

A conversion of bytes writes the records of the accepted colors in grid order, one a line, when there are
enough of them for the cube, and nothing when there are not.
-/

namespace ColorCube.Converter

/-- What a conversion with streams that do not fail answers and writes, for any bytes. -/
theorem convert_writes_accepted_grid (settings : Settings) (bytes : List UInt8) (sink : Sink)
    (hside : 1 ≤ settings.side) (hcube : settings.side ^ 3 ≤ 2 ^ 64 - 1)
    (hscale : settings.fullScale.isPositiveFinite)
    (hlimit : sink.limit = none) (hflush : sink.flushFault = none) :
    let inputLines := lines newlineByte bytes
    let colors := acceptedColors settings.fullScale inputLines
    let text := Sink.textOf (gridLines settings.order settings.side colors)
    let run := (standard settings).convert { bytes := bytes } sink
    (settings.side ^ 3 ≤ colors.length →
      run.result = .ok
        { records := colors.length
          skipped := inputLines.length - colors.length
          emitted := settings.side ^ 3 } ∧
      run.state.written = sink.written ++ text ∧
      text.count newlineByte = settings.side ^ 3) ∧
    (colors.length < settings.side ^ 3 →
      run.result = .error (.insufficientData (settings.side ^ 3) colors.length) ∧
      run.state = sink) := by
  intro inputLines colors text run
  refine ⟨?_, ?_⟩
  · intro henough
    obtain ⟨hr, hw⟩ := convert_of_enough settings { bytes := bytes } sink hside hcube hscale
      henough rfl hlimit hflush
    refine ⟨hr, hw, ?_⟩
    rw [← length_gridLines henough]
    exact count_newlineByte_textOf (plainText_gridLines settings.order settings.side colors)
  · intro hshort
    have hcolors : Source.colors settings.fullScale { bytes := bytes } = colors := rfl
    have hsome : firstCause (cubeCauses settings.side colors.length) =
        some (.insufficientData (settings.side ^ 3) colors.length) := by
      rw [firstCause_cubeCauses hcube, cause, if_pos hshort]
    have hrun := effect_convert_of_valid settings { bytes := bytes } sink hside hscale rfl
    rw [hcolors, guarded, hsome] at hrun
    exact ⟨congrArg Prod.fst hrun, congrArg Prod.snd hrun⟩

/-- Eight entries written with the first and the last axis exchanged; the line that is no record and the
newline that is missing at the end change nothing. -/
theorem convert_writes_accepted_grid_of_eight :
    let settings : Settings := ⟨.ofNat 8, 2, .bgr, .fail⟩
    let bytes := encodeUtf8 "0 0 0\n1 0 0\n2 0\n2 0 0\n3 0 0\n4 0 0\n5 0 0\n6 0 0\n7 0 0".toList
    let run := (standard settings).convert { bytes := bytes } {}
    run.result = .ok ⟨8, 1, 8⟩ ∧
    run.state.written =
      Sink.textOf (["0.000000", "0.500000", "0.250000", "0.750000", "0.125000", "0.625000", "0.375000",
        "0.875000"].map fun red =>
          ("\t\x7b .red = " ++ red ++ ", .green = 0.000000, .blue = 0.000000 \x7d,").toList) := by
  intro settings bytes run
  have hside : 1 ≤ settings.side := by decide
  have hcube : settings.side ^ 3 ≤ 2 ^ 64 - 1 := by decide
  have hscale : settings.fullScale.isPositiveFinite := by decide +kernel
  have hlines : (lines newlineByte bytes).length = 9 := by decide +kernel
  have hcolors : (acceptedColors settings.fullScale (lines newlineByte bytes)).length = 8 := by
    decide +kernel
  have henough : settings.side ^ 3 ≤
      (acceptedColors settings.fullScale (lines newlineByte bytes)).length := by
    rw [hcolors]
    decide
  obtain ⟨hok, -⟩ := convert_writes_accepted_grid settings bytes {} hside hcube hscale rfl rfl
  obtain ⟨hr, hw, -⟩ := hok henough
  rw [hcolors, hlines] at hr
  refine ⟨hr, hw.trans ?_⟩
  decide +kernel

end ColorCube.Converter
