import ColorCube.Proofs.RecordText
import ColorCube.Proofs.Trimming
import ColorCube.Record

/-!
# Words of printed text

Printed numbers hold no white space, so each is one word. A record has eleven words, the first one behind a tab
and each of the others behind a blank, so no reading takes it for an input line.
-/

namespace ColorCube

/-- A text that is one word. -/
def IsWord (w : List Char) : Prop := w ≠ [] ∧ ∀ c ∈ w, isSpace c = false

-- The characters of the word are gone through, and not all characters there are.
instance (w : List Char) : Decidable (IsWord w) := @instDecidableAnd _ _ _ (List.decidableBAll _ w)

theorem IsWord.words_eq {w : List Char} (h : IsWord w) : words w = [w] := by
  rw [words, List.splitOnP_eq_singleton h.2]
  simp [h.1]

theorem IsWord.append {v w : List Char} (hv : IsWord v) (hw : IsWord w) : IsWord (v ++ w) := by
  refine ⟨List.append_ne_nil_of_left_ne_nil hv.1 w, ?_⟩
  rw [List.forall_mem_append]
  exact ⟨hv.2, hw.2⟩

/-- Words with a blank between each two are found again. -/
theorem words_intercalate {ws : List (List Char)} (h : ∀ w ∈ ws, IsWord w) :
    words ([' '].intercalate ws) = ws := by
  induction ws with
  | nil => exact words_nil
  | cons w rest ih =>
    obtain ⟨hw, hrest⟩ := List.forall_mem_cons.mp h
    cases rest with
    | nil => rw [List.intercalate_singleton, hw.words_eq]
    | cons v rest =>
      rw [List.intercalate_cons_cons, List.append_assoc, List.singleton_append,
        words_append_cons _ _ (by decide), hw.words_eq, ih hrest, List.singleton_append]

theorem isSpace_of_isDigit {c : Char} (h : c.isDigit) : isSpace c = false := by
  obtain ⟨h0, h9⟩ := Char.isDigit_iff_toNat.mp h
  have hlow : 48 ≤ c.toNat := h0
  have hhigh : c.toNat ≤ 57 := h9
  simp only [isSpace, Bool.or_eq_false_iff, Bool.and_eq_false_iff, decide_eq_false_iff_not,
    beq_eq_false_iff_ne]
  omega

theorem IsNumeral.isSpace_eq_false {c : Char} (h : IsNumeral c) : isSpace c = false := by
  rcases h with h | h
  · exact isSpace_of_isDigit h
  · have hall : ['-', '.', 'i', 'n', 'f', 'N', 'a'].all fun c => !isSpace c := by decide
    simpa using List.all_eq_true.mp hall c h

theorem isWord_digits (n : Nat) : IsWord (digits n) :=
  ⟨digits_ne_nil n, fun _ h => isSpace_of_isDigit (isDigit_of_mem_digits h)⟩

theorem minusIf_ne_nil {s : List Char} (h : s ≠ []) (negative : Bool) : minusIf negative s ≠ [] := by
  cases negative with
  | false => exact h
  | true => exact List.cons_ne_nil '-' s

theorem sixPlaces_ne_nil (n : Nat) : sixPlaces n ≠ [] := by
  rw [sixPlaces]
  exact List.append_ne_nil_of_left_ne_nil (digits_ne_nil _) _

/-- A printed double is one word, whatever it shows. -/
theorem Binary64.isWord_toFixed (x : Binary64) : IsWord x.toFixed := by
  refine ⟨?_, fun c h => (isNumeral_of_mem_toFixed h).isSpace_eq_false⟩
  cases x with
  | nan => exact List.cons_ne_nil 'N' _
  | infinite negative => exact minusIf_ne_nil (List.cons_ne_nil 'i' _) negative
  | finite negative m => exact minusIf_ne_nil (sixPlaces_ne_nil m.millionths) negative

/-- The words of the record that shows three texts. -/
def recordWords (red green blue : List Char) : List (List Char) :=
  ["\x7b".toList, ".red".toList, "=".toList, red ++ [','], ".green".toList, "=".toList, green ++ [','],
    ".blue".toList, "=".toList, blue, "\x7d,".toList]

theorem recordText_eq_cons (red green blue : List Char) :
    recordText red green blue = '\t' :: [' '].intercalate (recordWords red green blue) := by
  unfold recordText recordWords
  simp [List.intercalate_cons_cons]

theorem isWord_of_mem_recordWords {red green blue w : List Char} (hr : IsWord red) (hg : IsWord green)
    (hb : IsWord blue) (h : w ∈ recordWords red green blue) : IsWord w := by
  have hcomma : IsWord [','] := by decide
  simp only [recordWords, List.mem_cons, List.not_mem_nil, or_false] at h
  rcases h with rfl | rfl | rfl | rfl | rfl | rfl | rfl | rfl | rfl | rfl | rfl
  · decide
  · decide
  · decide
  · exact hr.append hcomma
  · decide
  · decide
  · exact hg.append hcomma
  · decide
  · decide
  · exact hb
  · decide

/-- A record that shows three words has eleven. -/
theorem words_recordText {red green blue : List Char} (hr : IsWord red) (hg : IsWord green) (hb : IsWord blue) :
    words (recordText red green blue) = recordWords red green blue := by
  rw [recordText_eq_cons, words_space_cons _ (by decide)]
  exact words_intercalate fun _ h => isWord_of_mem_recordWords hr hg hb h

theorem readRecord_of_length_words {line : List Char} (h : (words line).length ≠ 3) (fullScale : Binary64) :
    readRecord fullScale line = .error (.wordCount (words line).length) := by
  unfold readRecord
  split
  next r g b hwords =>
    rw [hwords] at h
    exact absurd rfl h
  next => rfl

/-- A record is no input line, for it has too many words. -/
theorem readRecord_render (fullScale : Binary64) (c : Color) :
    readRecord fullScale c.render = .error (.wordCount 11) := by
  have hwords : (words c.render).length = 11 := by
    rw [c.render_eq_recordText, words_recordText c.red.isWord_toFixed c.green.isWord_toFixed
      c.blue.isWord_toFixed]
    rfl
  rw [readRecord_of_length_words (by omega), hwords]

/-- All that a record loses by trimming is its tab. -/
theorem trim_recordText (red green blue : List Char) :
    trim (recordText red green blue) = (recordText red green blue).tail := by
  have hends : recordText red green blue = '\t' :: '\x7b' :: ((" .red = ".toList ++ red ++ ", .green = ".toList ++
      green ++ ", .blue = ".toList ++ blue ++ " \x7d".toList) ++ [',']) := by
    unfold recordText
    simp
  rw [hends, List.tail_cons]
  refine TrimsTo.trim_eq ⟨⟨['\t'], [], isBlank_cons.mpr ⟨by decide, isBlank_nil⟩, isBlank_nil, by simp⟩, ?_, ?_⟩
  · rintro c ⟨⟩
    decide
  · rw [← List.cons_append, List.getLast?_concat]
    rintro c ⟨⟩
    decide

end ColorCube
