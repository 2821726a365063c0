import ColorCube.Proofs.LineBreaks
import ColorCube.Proofs.Reading
import ColorCube.Proofs.Trimming

/-!
# Accounts of a text

A text reader accounts for every line of a text once: as a color, or as a note with the number of the line,
its trimmed text and the reason. Which of the two it is does not depend on the settings.
-/

namespace ColorCube

/-- Full scale has no say in what is wrong with a line. -/
theorem readRecord_eq_error {fullScale : Binary64} {line : List Char} {reason : RecordError}
    (h : readRecord fullScale line = .error reason) (other : Binary64) :
    readRecord other line = .error reason := by
  unfold readRecord at h ⊢
  generalize words line = ws at h ⊢
  rcases ws with _ | ⟨r, _ | ⟨g, _ | ⟨b, _ | ⟨word, rest⟩⟩⟩⟩
  · exact h
  · exact h
  · exact h
  · cases hr : readChannel r <;> cases hg : readChannel g <;> cases hb : readChannel b <;> simp_all
  · exact h

theorem toBool_readRecord (fullScale other : Binary64) (line : List Char) :
    (readRecord fullScale line).toBool = (readRecord other line).toBool := by
  cases h : readRecord fullScale line with
  | error reason => rw [readRecord_eq_error h]
  | ok color =>
    cases ho : readRecord other line with
    | ok color => rfl
    | error reason => rw [readRecord_eq_error ho] at h; exact absurd h nofun

namespace Listing

theorem rejection?_congr (number : Nat) (line : List Char) (fullScale other : Binary64) :
    rejection? number line (readRecord fullScale line) =
      rejection? number line (readRecord other line) := by
  have h := toBool_readRecord fullScale other line
  cases hf : readRecord fullScale line with
  | error reason => rw [readRecord_eq_error hf]
  | ok color => cases ho : readRecord other line <;> simp_all [rejection?, Except.toBool]

variable (fullScale : Binary64)

@[simp] theorem rejected_ofLines_nil (first : Nat) : (ofLines fullScale [] first).rejected = [] := rfl

theorem rejected_ofLines_congr (other : Binary64) (ls : List (List Char)) (first : Nat) :
    (ofLines fullScale ls first).rejected = (ofLines other ls first).rejected := by
  induction ls generalizing first with
  | nil => rfl
  | cons line rest ih =>
    rw [rejected_ofLines_cons, rejected_ofLines_cons, ih, rejection?_congr]

/-- A note is that of a line which is no record, under the number of the line. -/
theorem mem_rejected_ofLines {ls : List (List Char)} {first : Nat} {r : RejectedLine} :
    r ∈ (ofLines fullScale ls first).rejected ↔ ∃ n line reason, ls[n]? = some line ∧
      readRecord fullScale line = .error reason ∧
      r = ⟨first + n, .ofList (trim line), reason⟩ := by
  induction ls generalizing first with
  | nil => simp
  | cons line rest ih =>
    rw [rejected_ofLines_cons, List.mem_append, ih]
    constructor
    · rintro (h | ⟨n, l, reason, hl, hr, rfl⟩)
      · cases hr : readRecord fullScale line with
        | ok color => simp [hr, rejection?] at h
        | error reason => exact ⟨0, line, reason, rfl, hr, by simpa [hr, rejection?] using h⟩
      · exact ⟨n + 1, l, reason, hl, hr, by rw [Nat.add_assoc, Nat.add_comm 1 n]⟩
    · rintro ⟨n, l, reason, hl, hr, rfl⟩
      cases n with
      | zero =>
        rw [List.getElem?_cons_zero, Option.some.injEq] at hl
        subst hl
        simp [hr, rejection?]
      | succ n => exact Or.inr ⟨n, l, reason, hl, hr, by rw [Nat.add_assoc, Nat.add_comm 1 n]⟩

/-- The notes are in the order of the lines, one for a line at most. -/
theorem pairwise_rejected_ofLines (ls : List (List Char)) (first : Nat) :
    (ofLines fullScale ls first).rejected.Pairwise fun r s => r.number < s.number := by
  induction ls generalizing first with
  | nil => simp
  | cons line rest ih =>
    rw [rejected_ofLines_cons, List.pairwise_append]
    refine ⟨?_, ih (first + 1), ?_⟩
    · cases rejection? first line (readRecord fullScale line) <;> simp
    · intro r hr s hs
      obtain ⟨n, l, reason, -, -, rfl⟩ := (mem_rejected_ofLines fullScale).mp hs
      cases hl : readRecord fullScale line with
      | ok color => simp [hl, rejection?] at hr
      | error reason =>
        simp only [hl, rejection?, Option.toList_some, List.mem_singleton] at hr
        subst hr
        dsimp only
        omega

end Listing

/-- A text is always read to its end. -/
theorem result_textReader (settings : Settings) (bytes : List UInt8) :
    (textReader settings { bytes := bytes } ()).result =
      .ok (Source.listing settings.fullScale { bytes := bytes }) :=
  congrArg Prod.fst (effect_textReader settings { bytes := bytes })

/-- The lines of a text are the pieces between its newlines, the last one also when no newline closes it.
Each of them is accounted for once: the colors are those of the lines that are records, in the order of the
lines, and the notes are those of the other lines, by increasing numbers. The text of a note is what remains of its
line without the white space around it. -/
theorem textReader_accounts_for_every_line (settings : Settings) (bytes : List UInt8) :
    let fullScale := settings.fullScale
    let inputLines := lines newlineByte bytes
    let unclosed := if bytes = [] ∨ bytes.getLast? = some newlineByte then 0 else 1
    (∀ line ∈ inputLines, newlineByte ∉ line) ∧
    inputLines.flatMap (· ++ [newlineByte]) = bytes ++ List.replicate unclosed newlineByte ∧
    ∃ listing, (textReader settings { bytes := bytes } ()).result = .ok listing ∧
      listing.sequence.toList =
        inputLines.filterMap (fun line => (readRecord fullScale (decodeUtf8 line)).toOption) ∧
      listing.rejected.Pairwise (fun r s => r.number < s.number) ∧
      (∀ r, r ∈ listing.rejected ↔ ∃ n line reason, inputLines[n]? = some line ∧
        readRecord fullScale (decodeUtf8 line) = .error reason ∧
        r = ⟨n + 1, .ofList (trim (decodeUtf8 line)), reason⟩) ∧
      (∀ line ∈ inputLines, ∀ content, TrimsTo (decodeUtf8 line) content ↔ trim (decodeUtf8 line) = content) ∧
      listing.sequence.size + listing.rejected.length = bytes.count newlineByte + unclosed ∧
      ∀ other : Settings,
        (∃ read, (textReader other { bytes := bytes } ()).result = .ok read ∧
          read.rejected = listing.rejected) ∧
        ∀ line ∈ inputLines, (readRecord other.fullScale (decodeUtf8 line)).toBool =
          (readRecord fullScale (decodeUtf8 line)).toBool := by
  intro fullScale inputLines unclosed
  have hunclosed : unclosed = if endsLine newlineByte bytes then 0 else 1 := by
    simp only [unclosed, endsLine_iff]
  refine ⟨fun line hl => newline_notMem_of_mem_lines hl, ?_, _, result_textReader settings bytes,
    ?_, ?_, ?_, fun line _ content => trimsTo_iff, ?_, ?_⟩
  · rw [flatMap_lines, hunclosed]
    cases endsLine newlineByte bytes <;> rfl
  · simp [Source.listing, Source.lines, acceptedColors, inputLines, fullScale]
  · exact Listing.pairwise_rejected_ofLines _ _ _
  · intro r
    simp only [Source.listing, Source.lines, Listing.mem_rejected_ofLines, List.getElem?_map]
    constructor
    · rintro ⟨n, text, reason, ht, hr, rfl⟩
      obtain ⟨line, hl, rfl⟩ := Option.map_eq_some_iff.mp ht
      exact ⟨n, line, reason, hl, hr, by rw [Nat.add_comm]⟩
    · rintro ⟨n, line, reason, hl, hr, rfl⟩
      exact ⟨n, decodeUtf8 line, reason, by rw [hl, Option.map_some], hr, by rw [Nat.add_comm]⟩
  · have h := Listing.accepted_add_rejected fullScale inputLines 1
    rw [length_lines, ← hunclosed] at h
    simpa [Source.listing, Source.lines] using h
  · intro other
    refine ⟨⟨_, result_textReader other bytes, ?_⟩, fun line _ => toBool_readRecord _ _ _⟩
    exact Listing.rejected_ofLines_congr _ _ _ _

/-- Two records around a short line with white space around it and an empty one, the last line unclosed: four lines,
and one full scale rejects what the other does. -/
theorem textReader_accounts_for_four_lines :
    let bytes := encodeUtf8 "1 2 3\n \t4\r\n\n5 6 7".toList
    let short := encodeUtf8 " \t4\r".toList
    short ∈ lines newlineByte bytes ∧ newlineByte ∉ short ∧ TrimsTo (decodeUtf8 short) ['4'] ∧
    ∃ listing, (textReader .default { bytes := bytes } ()).result = .ok listing ∧
      ⟨2, "4", .wordCount 1⟩ ∈ listing.rejected ∧ ⟨3, "", .wordCount 0⟩ ∈ listing.rejected ∧
      listing.sequence.size + listing.rejected.length = 4 ∧
      (readRecord (.ofNat 1) (decodeUtf8 short)).toBool =
        (readRecord (.ofNat 4095) (decodeUtf8 short)).toBool := by
  intro bytes short
  have hshort : short ∈ lines newlineByte bytes := by decide
  obtain ⟨hclean, -, listing, hread, -, -, hrejected, htrims, hcount, hother⟩ :=
    textReader_accounts_for_every_line .default bytes
  obtain ⟨-, hsame⟩ := hother ⟨.ofNat 1, 17, .rgb, .fail⟩
  refine ⟨hshort, hclean short hshort, (htrims short hshort _).mpr rfl, listing, hread, (hrejected _).mpr ?_,
    (hrejected _).mpr ?_, hcount.trans (by decide), hsame short hshort⟩
  · exact ⟨1, short, .wordCount 1, by decide, rfl, rfl⟩
  · exact ⟨2, [], .wordCount 0, by decide, rfl, rfl⟩

end ColorCube
