import ColorCube.Proofs.Agreement
import ColorCube.Proofs.Concatenation
import ColorCube.Proofs.Orders
import ColorCube.Proofs.PrintedWords

/-!
# What is written, read again

A text of records has no input line in it: each of its lines is rejected for its eleven words. So a file that has
been converted yields nothing when it is converted again, and as an output file is created only when there is a
cube to write, it is not lost either.
-/

namespace ColorCube

/-- The note on a record that stands where an input line is expected. -/
def Color.rejectedLine (c : Color) (number : Nat) : RejectedLine :=
  ⟨number, .ofList c.render.tail, .wordCount 11⟩

theorem Color.render_eq_cons (c : Color) : c.render = '\t' :: c.render.tail := by
  rw [c.render_eq_recordText, recordText_eq_cons, List.tail_cons]

theorem Listing.rejected_ofLines_records (fullScale : Binary64) (colors : List Color) (first : Nat) :
    (ofLines fullScale (colors.map Color.render) first).rejected =
      (colors.zipIdx first).map fun (c, number) => c.rejectedLine number := by
  induction colors generalizing first with
  | nil => rfl
  | cons c rest ih =>
    have htrim : trim c.render = c.render.tail := by
      rw [c.render_eq_recordText, trim_recordText]
    rw [List.map_cons, rejected_ofLines_cons, ih, readRecord_render, List.zipIdx_cons, List.map_cons]
    simp only [rejection?, htrim, Option.toList_some, List.singleton_append, Color.rejectedLine]

/-- There is no color to be read in a text of records. -/
theorem acceptedColors_records {ls : List (List Char)} (h : ∀ l ∈ ls, ∃ c : Color, c.render = l)
    (fullScale : Binary64) : acceptedColors fullScale (lines newlineByte (Sink.textOf ls)) = [] := by
  apply acceptedColors_of_isRejected
  intro line hline
  rw [Sink.textOf, lines_textOf (plainText_of_render h)] at hline
  obtain ⟨l, hl, rfl⟩ := List.mem_map.mp hline
  obtain ⟨c, rfl⟩ := h l hl
  exact ⟨.wordCount 11, by rw [decodeUtf8_encodeUtf8, readRecord_render]⟩

section Records

variable (colors : List Color)

theorem plainText_records : ∀ l ∈ colors.map Color.render, PlainText l :=
  plainText_of_render fun _ => exists_render_of_mem_map

theorem Source.listing_records (fullScale : Binary64) :
    Source.listing fullScale { bytes := Sink.textOf (colors.map Color.render) } =
      ⟨#[], (colors.zipIdx 1).map fun (c, number) => c.rejectedLine number⟩ := by
  let source : Source := { bytes := Sink.textOf (colors.map Color.render) }
  have hsequence : (source.listing fullScale).sequence = #[] := by
    rw [Source.listing, Listing.sequence_ofLines]
    exact congrArg List.toArray (acceptedColors_records (fun _ => exists_render_of_mem_map) fullScale)
  have hlines : source.lines.map decodeUtf8 = colors.map Color.render :=
    map_decodeUtf8_lines_textOf (plainText_records colors)
  have hrejected : (source.listing fullScale).rejected =
      (colors.zipIdx 1).map fun (c, number) => c.rejectedLine number := by
    rw [Source.listing, hlines, Listing.rejected_ofLines_records]
  rw [← hsequence, ← hrejected]

theorem getElem?_records (n : Nat) (h : n < colors.length) : ∃ content,
    (lines newlineByte (Sink.textOf (colors.map Color.render)))[n]? = some (encodeUtf8 ('\t' :: content)) ∧
    ((colors.zipIdx 1).map fun (c, number) => c.rejectedLine number)[n]? =
      some ⟨n + 1, .ofList content, .wordCount 11⟩ := by
  refine ⟨colors[n].render.tail, ?_, ?_⟩
  · rw [Sink.textOf, lines_textOf (plainText_records colors), List.map_map, List.getElem?_map,
      List.getElem?_eq_getElem h, Option.map_some, Function.comp_apply, ← Color.render_eq_cons]
  · rw [List.getElem?_map, List.getElem?_zipIdx, List.getElem?_eq_getElem h, Nat.add_comm]
    rfl

end Records

theorem initializerWriter_apply_empty (settings : Settings) (cube : Cube) :
    let call := initializerWriter settings cube {}
    call.result = .ok (cube.side ^ 3) ∧
      call.state.written = Sink.textOf ((cube.traverse settings.order).map Color.render) := by
  intro call
  have h := initializerWriter_adds settings cube {} rfl rfl
  rw [List.length_map, Cube.length_traverse] at h
  refine ⟨congrArg Prod.fst h, ?_⟩
  have hstate : call.state.written = ((Sink.write {} _).1).written := congrArg (fun r => r.2.written) h
  rw [hstate, Sink.written_write]
  rfl

theorem Medium.fault_source (medium : Medium) (bytes : List UInt8) :
    (medium.source bytes).fault = medium.readFault.map (·.2) := by
  unfold source
  cases medium.readFault <;> rfl

namespace Converter

variable {settings : Settings} {store : Store} {input output : String} {summary : Summary}

/-- A conversion to a file that succeeds has met no cause: the settings are valid, there is a cube, and the file
is created where the path leads to and holds the whole text. -/
theorem of_convertFileTo_eq_ok (h : ((standard settings).convertFileTo input output store).result = .ok summary) :
    firstCause settings.causes = none ∧ settings.side ^ 3 < countBound ∧
      ∃ place, store.locate output = .ok place ∧ ((standard settings).convertFileTo input output store).state =
        store.withOutput output (textOf settings (store.sourceAt input)) := by
  have he := Job.effect_of_result h
  rw [effect_convertFileTo] at he
  obtain ⟨hcauses, hwork⟩ := eq_of_guarded_eq_ok he
  rw [Prod.mk.injEq] at hwork
  obtain ⟨hverdict, hstate⟩ := hwork
  rw [firstCause_eq_none_iff] at hcauses
  rw [Sink.accepted_of_cause? (eq_none_of_verdict_eq_ok hverdict)] at hstate
  refine ⟨?_, ?_, ?_⟩
  · rw [firstCause_eq_none_iff]
    intro c hc
    exact hcauses c (by simp [listingCauses, hc])
  · have hside := hcauses (cause (countBound ≤ settings.side ^ 3) (.invalidSide settings.side))
      (by simp [listingCauses, cubeCauses])
    rw [cause_eq_none_iff] at hside
    exact Nat.not_le.mp hside
  · have hcreate := hcauses (store.createCause? output) (by simp)
    cases hl : store.locate output with
    | error e =>
      rw [Store.createCause?, hl] at hcreate
      cases hcreate
    | ok place => exact ⟨place, rfl, hstate.symm⟩

/-- A source that opens and has no color in it is not converted to a file: nothing is created. -/
theorem effect_convertFileTo_of_nothing {source : Source} (hv : firstCause settings.causes = none)
    (hside : settings.side ^ 3 < countBound) (hopen : store.openSource input = .ok source)
    (hnothing : source.fault = none → source.colors settings.fullScale = []) :
    Job.effect ((standard settings).convertFileTo input output) store =
      (.error (match source.fault with
        | none => .insufficientData (settings.side ^ 3) 0
        | some fault => .io fault), store) := by
  have hread : store.openCause? settings.missingInput input = none := by
    simp only [Store.openCause?, hopen]
  have hsource : store.sourceAt input = source := by
    rw [Store.sourceAt, hopen]
  have hpos : 0 < settings.side ^ 3 := Nat.pow_pos (Settings.side_pos_of_causes hv)
  rw [effect_convertFileTo, listingCauses, hread, hsource, List.append_assoc, guarded_append,
    guarded_of_none _ _ hv, Source.cause?]
  cases hf : source.fault with
  | some fault => rfl
  | none =>
    rw [hnothing hf, List.length_nil, cubeCauses, cause, if_neg (Nat.not_le.mpr hside), cause, if_pos hpos]
    rfl

/-- What is read from a file with the text of a grid: no color, up to the end of what can be read. -/
theorem colors_source_textOf (medium : Medium) (source : Source)
    (h : (medium.source (textOf settings source)).fault = none) :
    (medium.source (textOf settings source)).colors settings.fullScale = [] := by
  unfold Medium.source at h ⊢
  cases hm : medium.readFault with
  | some r =>
    rw [hm] at h
    cases h
  | none => exact acceptedColors_records (fun _ => exists_render_of_mem_gridLines) settings.fullScale

/-- A file with the text of a grid is not converted to a file. -/
theorem effect_convertFileTo_of_written {source : Source} {place : Location}
    (hv : firstCause settings.causes = none) (hside : settings.side ^ 3 < countBound)
    (hpath : store.resolve input = .ok (place, .file (textOf settings source))) :
    Job.effect ((standard settings).convertFileTo input output) store =
      (.error (match (store.medium place).readFault with
        | none => .insufficientData (settings.side ^ 3) 0
        | some (_, fault) => .io fault), store) := by
  rw [effect_convertFileTo_of_nothing hv hside (Store.openSource_of_resolve hpath)
    (colors_source_textOf (store.medium place) source), Medium.fault_source]
  cases (store.medium place).readFault <;> rfl

/-- Output is never taken for input. Every line of what a writer writes is rejected by every reading, under its
number, for its eleven words. So after a conversion to a file that succeeds, the path leads to the text, and a
second conversion of that file, under whatever path, lacks all entries; if the medium fails to be read it fails
like that. Either way it changes nothing, also when it goes to the same file. -/
theorem output_is_never_input :
    (∀ (writing reading : Settings) (cube : Cube),
      let call := initializerWriter writing cube {}
      let text := call.state.written
      call.result = .ok (cube.side ^ 3) ∧
      ∃ listing, (textReader reading { bytes := text } ()).result = .ok listing ∧
        listing.sequence = #[] ∧ (lines newlineByte text).length = cube.side ^ 3 ∧
        listing.rejected.length = cube.side ^ 3 ∧
        ∀ n < cube.side ^ 3, ∃ content,
          (lines newlineByte text)[n]? = some (encodeUtf8 ('\t' :: content)) ∧
          listing.rejected[n]? = some ⟨n + 1, .ofList content, .wordCount 11⟩) ∧
    (∀ (settings : Settings) (store : Store) (input output : String) (summary : Summary),
      let c : Converter := { settings := settings }
      let first := c.convertFileTo input output store
      first.result = .ok summary →
      ∃ place bytes, store.locate output = .ok place ∧
        first.state.resolve output = .ok (place, .file bytes) ∧
        ∀ path target, first.state.resolve path = .ok (place, .file bytes) →
          let again := c.convertFileTo path target first.state
          again.state = first.state ∧
          again.result = .error (match (store.medium place).readFault with
            | none => .insufficientData (settings.side ^ 3) 0
            | some (_, fault) => .io fault)) := by
  refine ⟨?_, ?_⟩
  · intro writing reading cube call text
    obtain ⟨hresult, hwritten⟩ := initializerWriter_apply_empty writing cube
    have htext : text = Sink.textOf ((cube.traverse writing.order).map Color.render) := hwritten
    have hlength : (cube.traverse writing.order).length = cube.side ^ 3 := Cube.length_traverse cube _
    have hlines : (lines newlineByte text).length = cube.side ^ 3 := by
      rw [htext, Sink.textOf, lines_textOf (plainText_records _), List.length_map, List.length_map, hlength]
    refine ⟨hresult, _, result_textReader reading text, ?_⟩
    rw [htext] at hlines ⊢
    rw [Source.listing_records]
    refine ⟨rfl, hlines, ?_, fun n hn => getElem?_records _ n (hlength ▸ hn)⟩
    rw [List.length_map, List.length_zipIdx, hlength]
  · intro settings store input output summary c first h
    obtain ⟨hv, hside, place, hl, hstate⟩ := of_convertFileTo_eq_ok h
    -- The path was followed in the files from before; it leads to the same place in those from after.
    have hwritten := Store.hasWritten_withOutput hl (textOf settings (store.sourceAt input))
    rw [← hstate] at hwritten
    refine ⟨place, _, hl, hwritten.resolve hl, ?_⟩
    intro path target hpath again
    have heffect : Job.effect (c.convertFileTo path target) first.state = _ :=
      effect_convertFileTo_of_written hv hside hpath
    rw [hwritten.medium_eq] at heffect
    exact ⟨congrArg Prod.snd heffect, congrArg Prod.fst heffect⟩

/-- A record with no number in it is one line that is rejected. A file that is converted into itself can be
converted once: after that it holds its record, and a second run finds no entry in it. -/
theorem output_is_never_input_in_place :
    let settings : Settings := ⟨.ofNat 8, 1, .rgb, .fail⟩
    let c : Converter := { settings := settings }
    let cube : Cube := ⟨1, #[⟨.nan, .infinite true, .infinite false⟩], by decide, rfl, by decide⟩
    let text := (initializerWriter settings cube {}).state.written
    let store : Store := { nodes := [(["lut.txt"], .file (encodeUtf8 "1 2 3\n".toList))] }
    let record := Sink.textOf
      ["\t\x7b .red = 0.125000, .green = 0.250000, .blue = 0.375000 \x7d,".toList]
    let first := c.convertFileTo "lut.txt" "lut.txt" store
    let again := c.convertFileTo "lut.txt" "lut.txt" first.state
    (∃ listing, (textReader settings { bytes := text } ()).result = .ok listing ∧
      listing.sequence = #[] ∧ listing.rejected.length = 1) ∧
    first.result = .ok ⟨1, 0, 1⟩ ∧ first.state.node? ["lut.txt"] = some (.file record) ∧
    again.result = .error (.insufficientData 1 0) ∧ again.state = first.state := by
  intro settings c cube text store record first again
  obtain ⟨hwritten, hfile⟩ := output_is_never_input
  obtain ⟨-, listing, hread, hsequence, -, hrejected, -⟩ := hwritten settings settings cube
  have hfirst : first.result = .ok ⟨1, 0, 1⟩ := by decide +kernel
  obtain ⟨place, bytes, hlocate, hresolve, hagain⟩ := hfile settings store "lut.txt" "lut.txt" _ hfirst
  obtain ⟨hstate, hresult⟩ := hagain "lut.txt" "lut.txt" hresolve
  have hnode : first.state.node? ["lut.txt"] = some (.file record) := by decide +kernel
  exact ⟨⟨listing, hread, hsequence, hrejected⟩, hfirst, hnode, hresult, hstate⟩

end Converter

end ColorCube
