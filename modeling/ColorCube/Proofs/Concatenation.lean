import ColorCube.Proofs.Accounting
import ColorCube.Proofs.Runs

/-!
# Texts put together

Where a line starts a text can be cut in two, and what is read from it is what is read from the two parts, the
line numbers of the second one moved on. So lines that are no records can be put in anywhere, and colors past
the last entry of the cube can follow: what is written stays the same.
-/

namespace ColorCube

/-- A rejected line with so many more lines before it. -/
def RejectedLine.movedOn (n : Nat) (r : RejectedLine) : RejectedLine := { r with number := r.number + n }

namespace Listing

variable (fullScale : Binary64)

theorem rejected_ofLines_append (xs ys : List (List Char)) (first : Nat) :
    (ofLines fullScale (xs ++ ys) first).rejected =
      (ofLines fullScale xs first).rejected ++ (ofLines fullScale ys (first + xs.length)).rejected := by
  induction xs generalizing first with
  | nil => simp
  | cons line rest ih =>
    have hfirst : first + 1 + rest.length = first + (line :: rest).length := by
      rw [List.length_cons]
      omega
    rw [List.cons_append, rejected_ofLines_cons, rejected_ofLines_cons, ih, hfirst, List.append_assoc]

theorem rejection?_add (number n : Nat) (line : List Char) (r : Except RecordError Color) :
    rejection? (number + n) line r = (rejection? number line r).map (.movedOn n) := by
  cases r <;> rfl

theorem rejected_ofLines_add (ls : List (List Char)) (first n : Nat) :
    (ofLines fullScale ls (first + n)).rejected =
      (ofLines fullScale ls first).rejected.map (.movedOn n) := by
  induction ls generalizing first with
  | nil => rfl
  | cons line rest ih =>
    have hfirst : first + n + 1 = first + 1 + n := by omega
    rw [rejected_ofLines_cons, rejected_ofLines_cons, hfirst, ih, rejection?_add, List.map_append]
    cases rejection? first line (readRecord fullScale line) <;> rfl

end Listing

theorem acceptedColors_append (fullScale : Binary64) (xs ys : List (List UInt8)) :
    acceptedColors fullScale (xs ++ ys) =
      acceptedColors fullScale xs ++ acceptedColors fullScale ys := List.filterMap_append

/-- What is read from two texts, the first of which ends a line. -/
theorem Source.listing_append (fullScale : Binary64) {a : List UInt8} (h : endsLine newlineByte a)
    (b : List UInt8) :
    let x := Source.listing fullScale { bytes := a }
    let y := Source.listing fullScale { bytes := b }
    Source.listing fullScale { bytes := a ++ b } =
      ⟨x.sequence ++ y.sequence, x.rejected ++ y.rejected.map (.movedOn (a.count newlineByte))⟩ := by
  intro x y
  have hl := lines_append h b
  have hseq : (Source.listing fullScale { bytes := a ++ b }).sequence = x.sequence ++ y.sequence := by
    simp only [x, y, Source.listing, Source.lines, hl, Listing.sequence_ofLines,
      acceptedColors_append, List.append_toArray]
  have hrej : (Source.listing fullScale { bytes := a ++ b }).rejected =
      x.rejected ++ y.rejected.map (.movedOn (a.count newlineByte)) := by
    simp only [x, y, Source.listing, Source.lines, hl, List.map_append,
      Listing.rejected_ofLines_append, List.length_map, length_lines_of_endsLine h,
      Listing.rejected_ofLines_add]
  rw [← hseq, ← hrej]

def IsRejected (fullScale : Binary64) (line : List UInt8) : Prop :=
  ∃ reason, readRecord fullScale (decodeUtf8 line) = .error reason

theorem acceptedColors_of_isRejected {fullScale : Binary64} {ls : List (List UInt8)}
    (h : ∀ line ∈ ls, IsRejected fullScale line) : acceptedColors fullScale ls = [] := by
  rw [acceptedColors, List.filterMap_eq_nil_iff]
  intro line hl
  obtain ⟨reason, hr⟩ := h line hl
  rw [hr]
  rfl

/-- A text with rejected lines put in where lines start. They come in blocks, as many as one likes, and each
ends in a newline unless nothing follows it. The last line of the text may be closed to put in more. -/
inductive Interspersed (fullScale : Binary64) (bytes : List UInt8) : List UInt8 → Prop where
  | unchanged : Interspersed fullScale bytes bytes
  | insert {before block after : List UInt8} (h : Interspersed fullScale bytes (before ++ after))
      (hbefore : endsLine newlineByte before) (hblock : endsLine newlineByte block ∨ after = [])
      (hrejected : ∀ line ∈ lines newlineByte block, IsRejected fullScale line) :
      Interspersed fullScale bytes (before ++ (block ++ after))
  | close {text : List UInt8} (h : Interspersed fullScale bytes text)
      (hopen : ¬ endsLine newlineByte text) : Interspersed fullScale bytes (text ++ [newlineByte])

theorem acceptedColors_insert {fullScale : Binary64} {before block after : List UInt8}
    (hbefore : endsLine newlineByte before) (hblock : endsLine newlineByte block ∨ after = [])
    (hrejected : ∀ line ∈ lines newlineByte block, IsRejected fullScale line) :
    acceptedColors fullScale (lines newlineByte (before ++ (block ++ after))) =
      acceptedColors fullScale (lines newlineByte (before ++ after)) := by
  have hlines : lines newlineByte (block ++ after) =
      lines newlineByte block ++ lines newlineByte after := by
    rcases hblock with h | rfl
    · exact lines_append h after
    · simp
  rw [lines_append hbefore, lines_append hbefore, hlines, acceptedColors_append,
    acceptedColors_append, acceptedColors_append, acceptedColors_of_isRejected hrejected,
    List.nil_append]

/-- Rejected lines do not show in the colors, however many are put in. -/
theorem Interspersed.acceptedColors_eq {fullScale : Binary64} {bytes text : List UInt8}
    (h : Interspersed fullScale bytes text) :
    acceptedColors fullScale (lines newlineByte text) =
      acceptedColors fullScale (lines newlineByte bytes) := by
  induction h with
  | unchanged => rfl
  | insert _ hbefore hblock hrejected ih =>
    rw [acceptedColors_insert hbefore hblock hrejected, ih]
  | close _ hopen ih => rw [lines_concat_newline hopen, ih]

namespace Converter

variable (settings : Settings)

/-- How many records a conversion writes, and what it leaves on a sink, follow from its causes and its text. -/
theorem emitted_convert (source : Source) (sink : Sink) :
    (((standard settings).convert source sink).result.map Summary.emitted,
        ((standard settings).convert source sink).state) =
      guarded (listingCauses settings [] source) sink
        (sink.taking (textOf settings source) (settings.side ^ 3)) := by
  have h := effect_convert settings source sink
  have hr := congrArg Prod.fst h
  have hs := congrArg Prod.snd h
  simp only [Job.effect] at hr hs
  rw [hr, hs]
  unfold guarded
  cases firstCause (listingCauses settings [] source) with
  | some e => rfl
  | none =>
    simp only [Sink.taking, verdict]
    cases firstCause [sink.cause? (textOf settings source)] <;> rfl

/-- Texts with the same grid, which fill the cube or fail to do so alike, are converted alike. -/
theorem convert_congr {a b : List UInt8} (sink : Sink)
    (hc : cubeCauses settings.side (acceptedColors settings.fullScale (lines newlineByte a)).length =
      cubeCauses settings.side (acceptedColors settings.fullScale (lines newlineByte b)).length)
    (ht : textOf settings { bytes := a } = textOf settings { bytes := b }) :
    let run (bytes : List UInt8) := (standard settings).convert { bytes := bytes } sink
    (run a).result.map Summary.emitted = (run b).result.map Summary.emitted ∧
      (run a).state = (run b).state := by
  intro run
  have hcauses : listingCauses settings [] { bytes := a } = listingCauses settings [] { bytes := b } :=
    congrArg (fun rest => settings.causes ++ ([] ++ none :: rest)) hc
  have h := emitted_convert settings { bytes := a } sink
  rw [hcauses, ht, ← emitted_convert] at h
  exact Prod.mk.inj h

/-- Colors past the last entry of the cube are neither missed nor written. -/
theorem convert_surplus {a : List UInt8} (ha : endsLine newlineByte a)
    (henough : settings.side ^ 3 ≤ (acceptedColors settings.fullScale (lines newlineByte a)).length)
    (sink : Sink) (b c : List UInt8) :
    let run (bytes : List UInt8) := (standard settings).convert { bytes := bytes } sink
    (run (a ++ b)).result.map Summary.emitted = (run (a ++ c)).result.map Summary.emitted ∧
      (run (a ++ b)).state = (run (a ++ c)).state := by
  have hcolors : ∀ t, acceptedColors settings.fullScale (lines newlineByte (a ++ t)) =
      acceptedColors settings.fullScale (lines newlineByte a) ++
        acceptedColors settings.fullScale (lines newlineByte t) := by
    intro t
    rw [lines_append ha, acceptedColors_append]
  have hcauses : ∀ t, cubeCauses settings.side
      (acceptedColors settings.fullScale (lines newlineByte (a ++ t))).length =
        [cause (countBound ≤ settings.side ^ 3) (.invalidSide settings.side), none] := by
    intro t
    rw [hcolors, List.length_append]
    exact cubeCauses_of_enough (Nat.le_add_right_of_le henough)
  have htext : ∀ t, textOf settings { bytes := a ++ t } = textOf settings { bytes := a } := by
    intro t
    simp only [textOf, textFor, Source.colors, Source.lines, hcolors]
    rw [gridLines_append henough]
  refine convert_congr settings sink ?_ ?_
  · rw [hcauses b, hcauses c]
  · rw [htext b, htext c]

end Converter

/-- What is read from two texts in a row, the first of which ends a line, is what is read from each of them.
So lines that are no records change neither the colors nor what is written, wherever lines start and however
many are put in; nor does anything change what is written that follows the line which fills the cube. -/
theorem reading_follows_line_breaks (settings : Settings) :
    let read (bytes : List UInt8) := (textReader settings { bytes := bytes } ()).result
    let run (bytes : List UInt8) (sink : Sink) :=
      ({ settings := settings } : Converter).convert { bytes := bytes } sink
    (∀ a b, endsLine newlineByte a → ∃ x y, read a = .ok x ∧ read b = .ok y ∧
      read (a ++ b) = .ok
        { sequence := x.sequence ++ y.sequence
          rejected := x.rejected ++ y.rejected.map (.movedOn (a.count newlineByte)) }) ∧
    (∀ bytes text, Interspersed settings.fullScale bytes text →
      (∃ x y, read bytes = .ok x ∧ read text = .ok y ∧ y.sequence = x.sequence) ∧
      ∀ sink, (run text sink).result.map Summary.emitted = (run bytes sink).result.map Summary.emitted ∧
        (run text sink).state = (run bytes sink).state) ∧
    (∀ a b c x, endsLine newlineByte a → read a = .ok x → settings.side ^ 3 ≤ x.sequence.size →
      ∀ sink, (run (a ++ b) sink).result.map Summary.emitted =
          (run (a ++ c) sink).result.map Summary.emitted ∧
        (run (a ++ b) sink).state = (run (a ++ c) sink).state) := by
  intro read run
  have hread : ∀ bytes, read bytes = .ok (Source.listing settings.fullScale { bytes := bytes }) :=
    result_textReader settings
  refine ⟨?_, ?_, ?_⟩
  · intro a b ha
    exact ⟨_, _, hread a, hread b, by rw [hread, Source.listing_append _ ha b]⟩
  · intro bytes text h
    have hcolors := h.acceptedColors_eq
    refine ⟨⟨_, _, hread bytes, hread text, ?_⟩, ?_⟩
    · simp only [Source.listing, Source.lines, Listing.sequence_ofLines, hcolors]
    · intro sink
      refine Converter.convert_congr settings sink ?_ ?_
      · rw [hcolors]
      · simp only [Converter.textOf, Source.colors, Source.lines, hcolors]
  · intro a b c x ha hx henough sink
    rw [hread, Except.ok.injEq] at hx
    subst hx
    refine Converter.convert_surplus settings ha ?_ sink b c
    simpa [Source.listing, Source.lines] using henough

/-- A record, and then a line that is none before a record that is not closed. The one line is numbered by its
place in the whole; lines put in between go unnoticed, and a cube of one entry is full after the first. -/
theorem reading_follows_line_breaks_of_two :
    let settings : Settings := ⟨.ofNat 8, 1, .rgb, .fail⟩
    let a := encodeUtf8 "1 2 3\n".toList
    let b := encodeUtf8 "4\n5 6 7".toList
    let bad := encodeUtf8 "x\n".toList
    let read (bytes : List UInt8) := (textReader settings { bytes := bytes } ()).result
    let run (bytes : List UInt8) (sink : Sink) :=
      ({ settings := settings } : Converter).convert { bytes := bytes } sink
    endsLine newlineByte a ∧
    (∃ x y, read a = .ok x ∧ read b = .ok y ∧
      read (a ++ b) = .ok ⟨x.sequence ++ y.sequence, x.rejected ++ [⟨2, "4", .wordCount 1⟩]⟩) ∧
    Interspersed settings.fullScale (a ++ b) (a ++ (bad ++ b)) ∧
    (run (a ++ (bad ++ b)) {}).state = (run (a ++ b) {}).state ∧
    (run (a ++ b) {}).state = (run (a ++ []) {}).state := by
  intro settings a b bad read run
  have ha : endsLine newlineByte a := by decide
  have hlines : lines newlineByte bad = [encodeUtf8 "x".toList] := by decide
  have hbad : Interspersed settings.fullScale (a ++ b) (a ++ (bad ++ b)) := by
    refine .insert .unchanged ha (Or.inl (by decide)) ?_
    rw [hlines, List.forall_mem_singleton]
    exact ⟨.wordCount 1, rfl⟩
  obtain ⟨happend, hput, hsurplus⟩ := reading_follows_line_breaks settings
  obtain ⟨x, y, hx, hy, hab⟩ := happend a b ha
  have hxa := (result_textReader settings a).symm.trans hx
  have hyb := (result_textReader settings b).symm.trans hy
  rw [Except.ok.injEq] at hxa hyb
  have hfirst : x.sequence.size = 1 := by
    rw [← hxa]
    decide +kernel
  have hrejected : y.rejected = [⟨1, "4", .wordCount 1⟩] := by
    rw [← hyb]
    decide +kernel
  have henough : settings.side ^ 3 ≤ x.sequence.size := Nat.le_of_eq hfirst.symm
  have hcount : a.count newlineByte = 1 := by decide
  rw [hcount, hrejected] at hab
  exact ⟨ha, ⟨x, y, hx, hy, hab⟩, hbad, ((hput _ _ hbad).2 {}).2,
    (hsurplus a b [] x ha hx henough {}).2⟩

end ColorCube
