import ColorCube.Proofs.PrintedWords

/-!
# Words between white space

The words of a text are told by where they stand: each follows white space, if anything, and ends where white space
comes or the text ends. White space in front of a text or behind it does not change its words.
-/

namespace ColorCube

theorem words_blank_append {s : List Char} (h : IsBlank s) (t : List Char) : words (s ++ t) = words t := by
  induction s with
  | nil => rfl
  | cons c s ih =>
    obtain ⟨hc, hs⟩ := isBlank_cons.mp h
    rw [List.cons_append, words_space_cons _ hc, ih hs]

theorem words_of_isBlank {s : List Char} (h : IsBlank s) : words s = [] := by
  have happend := words_blank_append h []
  rwa [List.append_nil, words_nil] at happend

theorem words_append_blank (s : List Char) {t : List Char} (h : IsBlank t) : words (s ++ t) = words s := by
  cases t with
  | nil => rw [List.append_nil]
  | cons c t =>
    obtain ⟨hc, ht⟩ := isBlank_cons.mp h
    rw [words_append_cons _ _ hc, words_of_isBlank ht, List.append_nil]

/-- Only the words of a line count. -/
theorem readRecord_congr {line other : List Char} (h : words line = words other) (fullScale : Binary64) :
    readRecord fullScale line = readRecord fullScale other := by
  rw [readRecord, h, readRecord]

/-- How a text is divided: each word has white space in front of it, if anything, and behind it there is white space
again or the end of the text. -/
inductive SplitsInto : List Char → List (List Char) → Prop where
  | blank {s : List Char} (h : IsBlank s) : SplitsInto s []
  | word {before w after : List Char} {ws : List (List Char)} (hbefore : IsBlank before) (hw : IsWord w)
      (hafter : ∀ c ∈ after.head?, isSpace c) (h : SplitsInto after ws) :
      SplitsInto (before ++ (w ++ after)) (w :: ws)

namespace SplitsInto

variable {s : List Char} {ws : List (List Char)}

theorem words_eq (h : SplitsInto s ws) : words s = ws := by
  induction h with
  | blank h => exact words_of_isBlank h
  | @word before w after ws hbefore hw hafter h ih =>
    rw [words_blank_append hbefore]
    cases after with
    | nil =>
      rw [List.append_nil, hw.words_eq, ← ih, words_nil]
    | cons c after =>
      have hc := hafter c rfl
      rw [words_append_cons _ _ hc, hw.words_eq, ← ih, words_space_cons _ hc, List.singleton_append]

theorem space_cons {c : Char} (hc : isSpace c) (h : SplitsInto s ws) : SplitsInto (c :: s) ws := by
  cases h with
  | blank h => exact .blank (isBlank_cons.mpr ⟨hc, h⟩)
  | word hbefore hw hafter h => exact .word (isBlank_cons.mpr ⟨hc, hbefore⟩) hw hafter h

/-- A character that is no white space begins a word, or is put in front of the first one. -/
theorem exists_letter_cons {c : Char} (hc : isSpace c = false) (h : SplitsInto s ws) :
    ∃ ws', SplitsInto (c :: s) ws' := by
  have hletter : IsWord [c] := ⟨List.cons_ne_nil c [], List.forall_mem_singleton.mpr hc⟩
  by_cases hs : ∀ d ∈ s.head?, isSpace d
  · exact ⟨[c] :: ws, .word isBlank_nil hletter hs h⟩
  · cases h with
    | blank h => exact absurd (fun d hd => h d (List.mem_of_mem_head? hd)) hs
    | @word before w after ws hbefore hw hafter h =>
      cases before with
      | nil => exact ⟨(c :: w) :: ws, .word isBlank_nil (hletter.append hw) hafter h⟩
      | cons d before =>
        refine absurd ?_ hs
        intro e he
        obtain rfl : d = e := Option.some.inj he
        exact hbefore d List.mem_cons_self

theorem exists_of_text (s : List Char) : ∃ ws, SplitsInto s ws := by
  induction s with
  | nil => exact ⟨[], .blank isBlank_nil⟩
  | cons c s ih =>
    obtain ⟨ws, h⟩ := ih
    cases hc : isSpace c with
    | true => exact ⟨ws, h.space_cons hc⟩
    | false => exact h.exists_letter_cons hc

end SplitsInto

/-- A text is divided in one way, which is into its words. -/
theorem splitsInto_iff {s : List Char} {ws : List (List Char)} : SplitsInto s ws ↔ words s = ws := by
  constructor
  · exact SplitsInto.words_eq
  · rintro rfl
    obtain ⟨ws, h⟩ := SplitsInto.exists_of_text s
    rwa [h.words_eq]

end ColorCube
