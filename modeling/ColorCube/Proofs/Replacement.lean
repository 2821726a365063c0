import ColorCube.Proofs.Accounting
import ColorCube.Proofs.Numerals
import ColorCube.Proofs.Utf8

/-!
# Lines that are no text

The words of a record are ASCII, so a replacement character spoils the line that it stands in. Bytes that are no
text leave one behind; what they spoil is their own line, since no line break can be lost in them.
-/

namespace ColorCube

/-- Text of characters that are one byte each. -/
def IsAscii (s : List Char) : Prop := ∀ c ∈ s, c.toNat < 0x80

theorem isAscii_nil : IsAscii [] := by simp [IsAscii]

theorem isAscii_cons {c : Char} {s : List Char} : IsAscii (c :: s) ↔ c.toNat < 0x80 ∧ IsAscii s :=
  List.forall_mem_cons

theorem isAscii_append {s t : List Char} : IsAscii (s ++ t) ↔ IsAscii s ∧ IsAscii t :=
  List.forall_mem_append

theorem isAscii_of_isDigit {s : List Char} (h : ∀ c ∈ s, c.isDigit) : IsAscii s := by
  intro c hc
  have h9 : c.toNat ≤ '9'.toNat := (Char.isDigit_iff_toNat.mp (h c hc)).2
  exact Nat.lt_of_le_of_lt h9 (by decide)

theorem isAscii_of_splitSign {s : List Char} (h : IsAscii (splitSign s).2) : IsAscii s := by
  unfold splitSign at h
  split at h
  · exact isAscii_cons.mpr ⟨by decide, h⟩
  · exact isAscii_cons.mpr ⟨by decide, h⟩
  · exact h

/-- Only an ASCII character has an ASCII character as its small letter. -/
theorem toNat_lt_of_toLower {c : Char} (h : c.toLower.toNat < 0x80) : c.toNat < 0x80 := by
  unfold Char.toLower at h
  split at h
  next hc => exact Nat.lt_of_le_of_lt hc.2 (by decide)
  next => exact h

theorem isAscii_of_map_toLower {s : List Char} (h : IsAscii (s.map Char.toLower)) : IsAscii s :=
  fun _ hc => toNat_lt_of_toLower (h _ (List.mem_map_of_mem hc))

/-- Digits at the front and the rest make up the text. -/
theorem span_isDigit_eq {s w r : List Char} (h : s.span Char.isDigit = (w, r)) :
    s = w ++ r ∧ ∀ c ∈ w, c.isDigit := by
  rw [List.span_eq_takeWhile_dropWhile, Prod.mk.injEq] at h
  obtain ⟨rfl, rfl⟩ := h
  exact ⟨(List.takeWhile_append_dropWhile).symm, List.all_eq_true.mp List.all_takeWhile⟩

namespace Literal

theorem isAscii_of_exponent? {s : List Char} {e : Int} (h : exponent? s = some e) : IsAscii s := by
  cases s with
  | nil => exact isAscii_nil
  | cons c s =>
    simp only [exponent?, Option.ite_none_right_eq_some] at h
    obtain ⟨⟨hc, -, hd⟩, -⟩ := h
    refine isAscii_cons.mpr ⟨?_, isAscii_of_splitSign (isAscii_of_isDigit (List.all_eq_true.mp hd))⟩
    rcases hc with rfl | rfl <;> decide

theorem isAscii_of_splitFraction {s : List Char} (h : IsAscii (splitFraction s).2) : IsAscii s := by
  unfold splitFraction at h
  split at h
  next s =>
    obtain ⟨hs, hd⟩ := span_isDigit_eq (s := s) rfl
    rw [hs]
    exact isAscii_cons.mpr ⟨by decide, isAscii_append.mpr ⟨isAscii_of_isDigit hd, h⟩⟩
  next => exact h

theorem isAscii_of_decimal? {s : List Char} {d : Nat × Int} (h : decimal? s = some d) : IsAscii s := by
  obtain ⟨hs, hd⟩ := span_isDigit_eq (s := s) rfl
  simp only [decimal?, Option.ite_none_left_eq_some, Option.map_eq_some_iff] at h
  obtain ⟨-, e, he, -⟩ := h
  rw [hs]
  exact isAscii_append.mpr ⟨isAscii_of_isDigit hd, isAscii_of_splitFraction (isAscii_of_exponent? he)⟩

theorem isAscii_of_word? {negative : Bool} {s : List Char} {l : Literal} (h : word? negative s = some l) :
    IsAscii s := by
  have hinf : IsAscii "inf".toList := by simp [IsAscii]
  have hinfinity : IsAscii "infinity".toList := by simp [IsAscii]
  have hnan : IsAscii "nan".toList := by simp [IsAscii]
  simp only [word?] at h
  split at h
  next hw =>
    refine isAscii_of_map_toLower ?_
    rcases hw with hw | hw
    · rwa [hw]
    · rwa [hw]
  next =>
    split at h
    next hw =>
      refine isAscii_of_map_toLower ?_
      rwa [hw]
    next => cases h

/-- Literals are spelled in ASCII. -/
theorem isAscii_of_ofChars? {s : List Char} {l : Literal} (h : ofChars? s = some l) : IsAscii s := by
  apply isAscii_of_splitSign
  unfold ofChars? at h
  cases hd : decimal? (splitSign s).2 with
  | some d => exact isAscii_of_decimal? hd
  | none =>
    simp only [hd] at h
    exact isAscii_of_word? h

end Literal

theorem isAscii_of_readChannel {w : List Char} {x : Binary64} (h : readChannel w = .ok x) : IsAscii w := by
  unfold readChannel at h
  cases hl : Literal.ofChars? w with
  | none =>
    rw [hl] at h
    cases h
  | some l => exact Literal.isAscii_of_ofChars? hl

/-- A character that is no white space stands in a word. -/
theorem exists_mem_words {s : List Char} {c : Char} (h : c ∈ s) (hc : isSpace c = false) :
    ∃ w ∈ words s, c ∈ w := by
  have hpiece : ∃ w ∈ s.splitOnP isSpace, c ∈ w := by
    induction s with
    | nil => cases h
    | cons x s ih =>
      obtain ⟨first, rest, hs⟩ := List.exists_cons_of_ne_nil (List.splitOnP_ne_nil isSpace s)
      rw [List.splitOnP_cons_eq_if_modifyHead]
      by_cases hx : isSpace x
      · have hne : c ≠ x := by
          rintro rfl
          rw [hc] at hx
          cases hx
        obtain ⟨w, hw, hcw⟩ := ih (List.mem_of_ne_of_mem hne h)
        rw [if_pos hx]
        exact ⟨w, List.mem_cons_of_mem [] hw, hcw⟩
      · rw [if_neg hx, hs, List.modifyHead_cons]
        rcases List.mem_cons.mp h with rfl | h
        · exact ⟨c :: first, List.mem_cons_self, List.mem_cons_self⟩
        · obtain ⟨w, hw, hcw⟩ := ih h
          rw [hs] at hw
          rcases List.mem_cons.mp hw with rfl | hw
          · exact ⟨x :: w, List.mem_cons_self, List.mem_cons_of_mem x hcw⟩
          · exact ⟨w, List.mem_cons_of_mem _ hw, hcw⟩
  obtain ⟨w, hw, hcw⟩ := hpiece
  refine ⟨w, List.mem_filter.mpr ⟨hw, ?_⟩, hcw⟩
  cases w with
  | nil => cases hcw
  | cons x w => rfl

/-- Past the ASCII characters a record has white space only. -/
theorem toNat_lt_of_readRecord {fullScale : Binary64} {line : List Char} {color : Color}
    (h : readRecord fullScale line = .ok color) {c : Char} (hc : c ∈ line) (hs : isSpace c = false) :
    c.toNat < 0x80 := by
  obtain ⟨w, hw, hcw⟩ := exists_mem_words hc hs
  unfold readRecord at h
  split at h
  next r g b hwords =>
    split at h
    next hr hg hb =>
      rw [hwords] at hw
      simp only [List.mem_cons, List.not_mem_nil, or_false] at hw
      rcases hw with rfl | rfl | rfl
      · exact isAscii_of_readChannel hr c hcw
      · exact isAscii_of_readChannel hg c hcw
      · exact isAscii_of_readChannel hb c hcw
    all_goals cases h
  next => cases h

/-- No record has a replacement character in it. -/
theorem exists_error_of_not_isUtf8 (fullScale : Binary64) {line : List UInt8} (h : ¬ IsUtf8 line) :
    ∃ reason, readRecord fullScale (decodeUtf8 line) = .error reason := by
  cases hr : readRecord fullScale (decodeUtf8 line) with
  | error reason => exact ⟨reason, rfl⟩
  | ok color =>
    have hascii := toNat_lt_of_readRecord hr (replacement_mem_of_not_isUtf8 h) (by decide)
    exact absurd hascii (by decide)

/-- Lines that are no text yield no colors. -/
theorem acceptedColors_filter_isUtf8 (fullScale : Binary64) (ls : List (List UInt8)) :
    acceptedColors fullScale (ls.filter (IsUtf8 ·)) = acceptedColors fullScale ls := by
  induction ls with
  | nil => rfl
  | cons line rest ih =>
    rw [acceptedColors_cons, List.filter_cons]
    by_cases h : IsUtf8 line
    · rw [if_pos (decide_eq_true h), acceptedColors_cons, ih]
    · obtain ⟨reason, hr⟩ := exists_error_of_not_isUtf8 fullScale h
      rw [if_neg (by simpa using h), ih, hr]
      rfl

/-- It is the same to decode a text line by line and to decode it as a whole. Text is decoded as it is, and a line
that is none is noted under its number and yields no color. -/
theorem textReader_decodes_whole_text (settings : Settings) (bytes : List UInt8) :
    let fullScale := settings.fullScale
    let inputLines := lines newlineByte bytes
    (∀ s, decodeUtf8 (encodeUtf8 s) = s) ∧
    ∃ listing, (textReader settings { bytes := bytes } ()).result = .ok listing ∧
      listing = .ofLines fullScale (lines '\n' (decodeUtf8 bytes)) 1 ∧
      listing.sequence.toList = acceptedColors fullScale (inputLines.filter (IsUtf8 ·)) ∧
      ∀ n line, inputLines[n]? = some line → ¬ IsUtf8 line →
        ∃ reason, readRecord fullScale (decodeUtf8 line) = .error reason ∧
          ⟨n + 1, .ofList (trim (decodeUtf8 line)), reason⟩ ∈ listing.rejected := by
  intro fullScale inputLines
  refine ⟨decodeUtf8_encodeUtf8, _, result_textReader settings bytes, ?_, ?_, ?_⟩
  · rw [lines_decodeUtf8]
    rfl
  · rw [acceptedColors_filter_isUtf8]
    simp [Source.listing, Source.lines, inputLines, fullScale]
  · intro n line hn hline
    obtain ⟨reason, hr⟩ := exists_error_of_not_isUtf8 fullScale hline
    refine ⟨reason, hr, (Listing.mem_rejected_ofLines fullScale).mpr ⟨n, decodeUtf8 line, reason, ?_, hr, ?_⟩⟩
    · simp only [Source.lines, List.getElem?_map]
      exact congrArg (Option.map decodeUtf8) hn
    · rw [Nat.add_comm]

/-- A character that a newline cuts short, between two records: its line is the second one, and no other is
touched by it. -/
theorem textReader_decodes_whole_text_around_cut :
    let bytes := encodeUtf8 "1 2 3\n".toList ++ [0xE2, 0x82] ++ encodeUtf8 "\n4 5 6".toList
    (lines newlineByte bytes)[1]? = some [0xE2, 0x82] ∧ ¬ IsUtf8 [0xE2, 0x82] ∧
    ∃ listing, (textReader .default { bytes := bytes } ()).result = .ok listing ∧
      listing.sequence.size = 2 ∧ ⟨2, "\uFFFD", .wordCount 1⟩ ∈ listing.rejected := by
  intro bytes
  have hline : (lines newlineByte bytes)[1]? = some [0xE2, 0x82] := by decide
  have hcut : ¬ IsUtf8 [0xE2, 0x82] := by decide
  obtain ⟨-, listing, hread, -, hcolors, hrejected⟩ := textReader_decodes_whole_text .default bytes
  obtain ⟨reason, hr, hmem⟩ := hrejected 1 [0xE2, 0x82] hline hcut
  have hsize : (acceptedColors Settings.default.fullScale
      ((lines newlineByte bytes).filter (IsUtf8 ·))).length = 2 := by decide +kernel
  have hreason : reason = .wordCount 1 := by
    have hc : readRecord Settings.default.fullScale (decodeUtf8 [0xE2, 0x82]) = .error (.wordCount 1) := rfl
    rw [hc] at hr
    exact (Except.error.inj hr).symm
  refine ⟨hline, hcut, listing, hread, ?_, ?_⟩
  · rw [← Array.length_toList, hcolors, hsize]
  · rw [hreason] at hmem
    exact hmem

end ColorCube
