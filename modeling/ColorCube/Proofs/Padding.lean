import ColorCube.Proofs.Accounting
import ColorCube.Proofs.Utf8
import ColorCube.Proofs.WhiteSpace

/-!
# Padded lines

The ends of a line may be padded with ASCII white space other than newlines, as the carriage return does that some
systems put in front of each newline. A padded line has the same words and is noted under the same text, so a reader
cannot tell. Padding also comes out unharmed behind a character that is cut short.
-/

namespace ColorCube

/-- The tab, the vertical tab, the form feed, the carriage return and the space. -/
def paddingBytes : List UInt8 := [0x09, 0x0B, 0x0C, 0x0D, 0x20]

def carriageReturn : UInt8 := 0x0D

def IsPadding (bytes : List UInt8) : Prop := ∀ b ∈ bytes, b ∈ paddingBytes

-- The bytes of the padding are gone through, and not all bytes there are.
instance (bytes : List UInt8) : Decidable (IsPadding bytes) := List.decidableBAll _ bytes

theorem isPadding_nil : IsPadding [] := List.forall_mem_nil _

theorem isPadding_cons {b : UInt8} {bytes : List UInt8} :
    IsPadding (b :: bytes) ↔ b ∈ paddingBytes ∧ IsPadding bytes := List.forall_mem_cons

theorem IsPadding.newlineByte_notMem {bytes : List UInt8} (h : IsPadding bytes) : newlineByte ∉ bytes := by
  intro hn
  exact absurd (h newlineByte hn) (by decide)

theorem isSpace_of_mem_paddingBytes {b : UInt8} (h : b ∈ paddingBytes) :
    b.toNat < 0x80 ∧ isSpace (Char.ofNat b.toNat) := by
  have hall : paddingBytes.all fun b => b.toNat < 0x80 && isSpace (Char.ofNat b.toNat) := by decide
  simpa using List.all_eq_true.mp hall b h

/-- Padding is decoded by itself, in front of anything and behind anything. -/
theorem decodeUtf8_padding_append {padding : List UInt8} (h : IsPadding padding) (line : List UInt8) :
    ∃ blank, IsBlank blank ∧ decodeUtf8 (padding ++ line) = blank ++ decodeUtf8 line := by
  induction padding with
  | nil => exact ⟨[], isBlank_nil, rfl⟩
  | cons b padding ih =>
    obtain ⟨hb, hpadding⟩ := isPadding_cons.mp h
    obtain ⟨hascii, hspace⟩ := isSpace_of_mem_paddingBytes hb
    obtain ⟨blank, hblank, hdecode⟩ := ih hpadding
    refine ⟨Char.ofNat b.toNat :: blank, isBlank_cons.mpr ⟨hspace, hblank⟩, ?_⟩
    have hcons := decodeUtf8_append_ascii_cons [] (padding ++ line) hascii
    rw [List.cons_append, ← List.nil_append (b :: _), hcons, hdecode, List.cons_append]
    rfl

theorem decodeUtf8_append_padding (line : List UInt8) {padding : List UInt8} (h : IsPadding padding) :
    ∃ blank, IsBlank blank ∧ decodeUtf8 (line ++ padding) = decodeUtf8 line ++ blank := by
  cases padding with
  | nil => exact ⟨[], isBlank_nil, by rw [List.append_nil, List.append_nil]⟩
  | cons b padding =>
    obtain ⟨hb, hpadding⟩ := isPadding_cons.mp h
    obtain ⟨hascii, hspace⟩ := isSpace_of_mem_paddingBytes hb
    obtain ⟨blank, hblank, hdecode⟩ := decodeUtf8_padding_append hpadding []
    rw [List.append_nil, decodeUtf8_nil, List.append_nil] at hdecode
    refine ⟨Char.ofNat b.toNat :: blank, isBlank_cons.mpr ⟨hspace, hblank⟩, ?_⟩
    rw [decodeUtf8_append_ascii_cons _ _ hascii, hdecode]

/-- A line and the same line with padding at its ends. -/
def PaddedLine (line text : List UInt8) : Prop :=
  ∃ front back, IsPadding front ∧ IsPadding back ∧ text = front ++ (line ++ back)

namespace PaddedLine

variable {line text : List UInt8}

theorem refl (line : List UInt8) : PaddedLine line line :=
  ⟨[], [], isPadding_nil, isPadding_nil, by rw [List.append_nil, List.nil_append]⟩

theorem newlineByte_notMem (h : PaddedLine line text) (hline : newlineByte ∉ line) : newlineByte ∉ text := by
  obtain ⟨front, back, hfront, hback, rfl⟩ := h
  simp [hfront.newlineByte_notMem, hback.newlineByte_notMem, hline]

theorem ne_nil (h : PaddedLine line text) (hline : line ≠ []) : text ≠ [] := by
  obtain ⟨front, back, -, -, rfl⟩ := h
  simp [hline]

theorem decodeUtf8_eq (h : PaddedLine line text) :
    ∃ before after, IsBlank before ∧ IsBlank after ∧
      decodeUtf8 text = before ++ (decodeUtf8 line ++ after) := by
  obtain ⟨front, back, hfront, hback, rfl⟩ := h
  obtain ⟨before, hbefore, hdecode⟩ := decodeUtf8_padding_append hfront (line ++ back)
  obtain ⟨after, hafter, hrest⟩ := decodeUtf8_append_padding line hback
  exact ⟨before, after, hbefore, hafter, by rw [hdecode, hrest]⟩

/-- Padding leaves the words of a line and its trimmed text as they are. -/
theorem words_eq (h : PaddedLine line text) : words (decodeUtf8 text) = words (decodeUtf8 line) := by
  obtain ⟨before, after, hbefore, hafter, hdecode⟩ := h.decodeUtf8_eq
  rw [hdecode, words_blank_append hbefore, words_append_blank _ hafter]

theorem trim_eq (h : PaddedLine line text) : trim (decodeUtf8 text) = trim (decodeUtf8 line) := by
  obtain ⟨before, after, hbefore, hafter, hdecode⟩ := h.decodeUtf8_eq
  rw [hdecode, trim_blank_append hbefore, trim_append_blank _ hafter]

theorem readRecord_eq (h : PaddedLine line text) (fullScale : Binary64) :
    readRecord fullScale (decodeUtf8 text) = readRecord fullScale (decodeUtf8 line) :=
  readRecord_congr h.words_eq fullScale

end PaddedLine

/-- A text with some of its lines padded. What stands behind the last newline is a line only if it is not empty. -/
inductive Padded : List UInt8 → List UInt8 → Prop where
  | empty : Padded [] []
  | unclosed {line text : List UInt8} (hne : line ≠ []) (hline : newlineByte ∉ line) (h : PaddedLine line text) :
      Padded line text
  | closed {line text rest padded : List UInt8} (hline : newlineByte ∉ line) (h : PaddedLine line text)
      (hrest : Padded rest padded) : Padded (line ++ newlineByte :: rest) (text ++ newlineByte :: padded)

/-- A text with a carriage return put in front of some of its newlines. -/
inductive WithReturns : List UInt8 → List UInt8 → Prop where
  | empty : WithReturns [] []
  | keep {s t : List UInt8} (b : UInt8) (h : WithReturns s t) : WithReturns (b :: s) (b :: t)
  | put {s t : List UInt8} (h : WithReturns s t) :
      WithReturns (newlineByte :: s) (carriageReturn :: newlineByte :: t)

namespace WithReturns

variable {s t : List UInt8}

theorem eq_of_notMem (h : WithReturns s t) (hs : newlineByte ∉ s) : t = s := by
  induction h with
  | empty => rfl
  | keep b h ih => rw [ih (List.not_mem_of_not_mem_cons hs)]
  | put h ih => exact absurd List.mem_cons_self hs

/-- Up to the first newline nothing is changed, but in front of it there may be a carriage return. -/
theorem exists_of_closed {line : List UInt8} (hline : newlineByte ∉ line)
    (h : WithReturns (line ++ newlineByte :: s) t) :
    ∃ rest, WithReturns s rest ∧ (t = line ++ newlineByte :: rest ∨
      t = line ++ carriageReturn :: newlineByte :: rest) := by
  induction line generalizing t with
  | nil =>
    cases h with
    | keep b h => exact ⟨_, h, Or.inl rfl⟩
    | put h => exact ⟨_, h, Or.inr rfl⟩
  | cons b line ih =>
    cases h with
    | keep b h =>
      obtain ⟨rest, hrest, rfl | rfl⟩ := ih (List.not_mem_of_not_mem_cons hline) h
      · exact ⟨rest, hrest, Or.inl rfl⟩
      · exact ⟨rest, hrest, Or.inr rfl⟩
    | put h => exact absurd List.mem_cons_self hline

/-- Carriage returns in front of newlines are padding. -/
theorem padded (h : WithReturns s t) : Padded s t := by
  induction s using induction_on_lines newlineByte generalizing t with
  | unclosed s hs =>
    obtain rfl := h.eq_of_notMem hs
    by_cases hne : t = []
    · subst hne
      exact .empty
    · exact .unclosed hne hs (.refl t)
  | closed s rest hs ih =>
    obtain ⟨t, hrest, rfl | rfl⟩ := h.exists_of_closed hs
    · exact .closed hs (.refl s) (ih hrest)
    · have hpadded : PaddedLine s (s ++ [carriageReturn]) :=
        ⟨[], [carriageReturn], isPadding_nil, by decide, rfl⟩
      have happend := Padded.closed hs hpadded (ih hrest)
      rwa [List.append_assoc, List.singleton_append] at happend

end WithReturns

namespace Padded

variable {bytes text : List UInt8}

/-- The lines of a padded text are those of the text, each one padded or as it was. -/
theorem forall₂_lines (h : Padded bytes text) :
    List.Forall₂ PaddedLine (lines newlineByte bytes) (lines newlineByte text) := by
  induction h with
  | empty => rw [lines_nil]; exact .nil
  | @unclosed line text hne hline h =>
    rw [lines_of_notMem hline, lines_of_notMem (h.newlineByte_notMem hline)]
    simp [hne, h.ne_nil hne, h]
  | closed hline h hrest ih =>
    rw [lines_closed hline, lines_closed (h.newlineByte_notMem hline)]
    exact .cons h ih

theorem forall₂_completeLines (h : Padded bytes text) :
    List.Forall₂ PaddedLine (completeLines newlineByte bytes) (completeLines newlineByte text) := by
  induction h with
  | empty => rw [completeLines_nil]; exact .nil
  | unclosed hne hline h =>
    have hsplit := List.splitOn_eq_singleton hline
    have hpadded := List.splitOn_eq_singleton (h.newlineByte_notMem hline)
    rw [completeLines, hsplit, completeLines, hpadded]
    exact .nil
  | closed hline h hrest ih =>
    have hsplit := List.splitOn_eq_singleton hline
    have hpadded := List.splitOn_eq_singleton (h.newlineByte_notMem hline)
    rw [completeLines_append_cons, hsplit, completeLines_append_cons, hpadded]
    exact .cons h ih

theorem forall₂_source (h : Padded bytes text) (fault : Option Fault) :
    List.Forall₂ PaddedLine (Source.lines { bytes := bytes, fault := fault })
      (Source.lines { bytes := text, fault := fault }) := by
  cases fault with
  | none => exact h.forall₂_lines
  | some fault => exact h.forall₂_completeLines

end Padded

section Listings

variable (fullScale : Binary64) {ls padded : List (List UInt8)}

theorem acceptedColors_padded (h : List.Forall₂ PaddedLine ls padded) :
    acceptedColors fullScale padded = acceptedColors fullScale ls := by
  induction h with
  | nil => rfl
  | cons hline hrest ih => rw [acceptedColors_cons, hline.readRecord_eq, ih, ← acceptedColors_cons]

theorem rejected_padded (h : List.Forall₂ PaddedLine ls padded) (first : Nat) :
    (Listing.ofLines fullScale (padded.map decodeUtf8) first).rejected =
      (Listing.ofLines fullScale (ls.map decodeUtf8) first).rejected := by
  induction h generalizing first with
  | nil => rfl
  | @cons line text ls padded hline hrest ih =>
    have hnote : Listing.rejection? first (decodeUtf8 text) = Listing.rejection? first (decodeUtf8 line) := by
      funext r
      cases r <;> simp [Listing.rejection?, hline.trim_eq]
    rw [List.map_cons, List.map_cons, Listing.rejected_ofLines_cons, Listing.rejected_ofLines_cons,
      hline.readRecord_eq, hnote, ih]

/-- Padded lines make the same listing. -/
theorem ofLines_padded (h : List.Forall₂ PaddedLine ls padded) (first : Nat) :
    Listing.ofLines fullScale (padded.map decodeUtf8) first = .ofLines fullScale (ls.map decodeUtf8) first := by
  have hsequence : (Listing.ofLines fullScale (padded.map decodeUtf8) first).sequence =
      (Listing.ofLines fullScale (ls.map decodeUtf8) first).sequence := by
    rw [Listing.sequence_ofLines, Listing.sequence_ofLines, acceptedColors_padded fullScale h]
  exact congrArg₂ Listing.mk hsequence (rejected_padded fullScale h first)

end Listings

/-- A text is read, and reading it with padded lines, or with carriage returns in front of some newlines, comes to the
same end, also where the source fails: the same colors, the same notes and the same events. -/
theorem textReader_ignores_padding (settings : Settings) (bytes text : List UInt8)
    (h : Padded bytes text ∨ WithReturns bytes text) :
    (∃ listing, (textReader settings { bytes := bytes } ()).result = .ok listing) ∧
    ∀ fault, textReader settings { bytes := text, fault := fault } () =
      textReader settings { bytes := bytes, fault := fault } () := by
  have hpadded : Padded bytes text := h.elim id WithReturns.padded
  refine ⟨⟨_, result_textReader settings bytes⟩, ?_⟩
  intro fault
  have hlisting := ofLines_padded settings.fullScale (hpadded.forall₂_source fault) 1
  unfold textReader
  rw [hlisting]

/-- Three padded lines, the second of which is a character that is cut short: it is noted as before. -/
theorem textReader_ignores_padding_around_cut :
    let first := encodeUtf8 "1 2 3".toList
    let last := encodeUtf8 "4 5 6".toList
    let bytes := first ++ newlineByte :: ([0xE2, 0x82] ++ newlineByte :: last)
    let text := (first ++ [0x20, 0x0D]) ++ newlineByte :: (([0x0B, 0xE2, 0x82] ++ [0x0D]) ++ newlineByte ::
      ([0x09] ++ last ++ [0x0C]))
    Padded bytes text ∧
    (textReader .default { bytes := text } ()).result.map Listing.rejected = .ok [⟨2, "\uFFFD", .wordCount 1⟩] := by
  intro first last bytes text
  have hfirst : PaddedLine first (first ++ [0x20, 0x0D]) := ⟨[], [0x20, 0x0D], by decide, by decide, rfl⟩
  have hcut : PaddedLine [0xE2, 0x82] ([0x0B, 0xE2, 0x82] ++ [0x0D]) :=
    ⟨[0x0B], [0x0D], by decide, by decide, rfl⟩
  have hlast : PaddedLine last ([0x09] ++ last ++ [0x0C]) := ⟨[0x09], [0x0C], by decide, by decide, rfl⟩
  have hpadded : Padded bytes text :=
    .closed (by decide) hfirst (.closed (by decide) hcut (.unclosed (by decide) (by decide) hlast))
  have hrejected : (textReader .default { bytes := bytes } ()).result.map Listing.rejected =
      .ok [⟨2, "\uFFFD", .wordCount 1⟩] := by
    rw [result_textReader]
    decide +kernel
  obtain ⟨-, hsame⟩ := textReader_ignores_padding .default bytes text (Or.inl hpadded)
  refine ⟨hpadded, ?_⟩
  rw [hsame none, hrejected]

end ColorCube
