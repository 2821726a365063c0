import ColorCube.Color
import ColorCube.Proofs.Numerals
import ColorCube.Proofs.Utf8

/-!
# Plain text

Text of ASCII characters other than the newline has one byte a character and no newline byte, so it is read
back from its bytes, and lines of it are read back from a text of lines. Records are such lines.
-/

namespace ColorCube

/-- An ASCII character that can stand within a line. -/
def IsPlain (c : Char) : Prop := c.toNat < 128 ∧ c ≠ '\n'

instance (c : Char) : Decidable (IsPlain c) := inferInstanceAs (Decidable (_ ∧ _))

def PlainText (s : List Char) : Prop := ∀ c ∈ s, IsPlain c

instance (s : List Char) : Decidable (PlainText s) := inferInstanceAs (Decidable (∀ c ∈ s, IsPlain c))

theorem plainText_append {s t : List Char} :
    PlainText (s ++ t) ↔ PlainText s ∧ PlainText t := List.forall_mem_append

theorem plainText_cons {c : Char} {s : List Char} :
    PlainText (c :: s) ↔ IsPlain c ∧ PlainText s := List.forall_mem_cons

/-- The byte of an ASCII character. -/
def plainByte (c : Char) : UInt8 := .ofNat c.toNat

theorem toNat_plainByte {c : Char} (h : c.toNat < 128) : (plainByte c).toNat = c.toNat := by
  rw [plainByte, UInt8.toNat_ofNat']
  omega

theorem encodeUtf8_plain {s : List Char} (h : PlainText s) : encodeUtf8 s = s.map plainByte := by
  induction s with
  | nil => rfl
  | cons c s ih =>
    obtain ⟨hc, hs⟩ := plainText_cons.mp h
    rw [encodeUtf8_cons, utf8EncodeChar_one hc.1]
    exact congrArg (plainByte c :: ·) (ih hs)

theorem plainByte_inj {c d : Char} (hc : c.toNat < 128) (hd : d.toNat < 128)
    (h : plainByte c = plainByte d) : c = d := by
  have hn := congrArg UInt8.toNat h
  rw [toNat_plainByte hc, toNat_plainByte hd] at hn
  exact Char.toNat_inj.mp hn

/-- The byte of a character that does not occur does not occur either. -/
theorem plainByte_notMem_encodeUtf8 {s : List Char} {c : Char} (hs : PlainText s) (hc : c.toNat < 128)
    (h : c ∉ s) : plainByte c ∉ encodeUtf8 s := by
  rw [encodeUtf8_plain hs]
  intro hm
  obtain ⟨d, hd, hb⟩ := List.mem_map.mp hm
  rw [plainByte_inj (hs d hd).1 hc hb] at hd
  exact h hd

theorem newlineByte_notMem_encodeUtf8 {s : List Char} (h : PlainText s) : newlineByte ∉ encodeUtf8 s :=
  plainByte_notMem_encodeUtf8 h (by decide) fun hn => (h _ hn).2 rfl

/-- Plain lines are read back from their text. -/
theorem lines_textOf {ls : List (List Char)} (h : ∀ l ∈ ls, PlainText l) :
    lines newlineByte (ls.flatMap Sink.lineBytes) = ls.map encodeUtf8 := by
  induction ls with
  | nil => simp
  | cons l rest ih =>
    obtain ⟨hl, hrest⟩ := List.forall_mem_cons.mp h
    have hs := List.splitOn_eq_singleton (newlineByte_notMem_encodeUtf8 hl)
    rw [List.flatMap_cons, Sink.lineBytes, List.append_assoc, List.singleton_append,
      lines_append_cons, hs, ih hrest, List.map_cons, List.singleton_append]

/-- Plain lines are decoded from the lines of their text. -/
theorem map_decodeUtf8_lines_textOf {ls : List (List Char)} (h : ∀ l ∈ ls, PlainText l) :
    (lines newlineByte (ls.flatMap Sink.lineBytes)).map decodeUtf8 = ls := by
  rw [lines_textOf h, List.map_map]
  conv_rhs => rw [← List.map_id ls]
  apply List.map_congr_left
  intro l hl
  exact decodeUtf8_encodeUtf8 l

theorem count_newlineByte_lineBytes {l : List Char} (h : PlainText l) :
    (Sink.lineBytes l).count newlineByte = 1 := by
  rw [Sink.lineBytes, List.count_append,
    List.count_eq_zero_of_not_mem (newlineByte_notMem_encodeUtf8 h), List.count_singleton_self]

/-- The newlines of a text of plain lines are as many as these lines. -/
theorem count_newlineByte_textOf {ls : List (List Char)} (h : ∀ l ∈ ls, PlainText l) :
    (ls.flatMap Sink.lineBytes).count newlineByte = ls.length := by
  induction ls with
  | nil => rfl
  | cons l rest ih =>
    obtain ⟨hl, hrest⟩ := List.forall_mem_cons.mp h
    rw [List.flatMap_cons, List.count_append, count_newlineByte_lineBytes hl, ih hrest,
      List.length_cons, Nat.add_comm]

/-- A character of a printed number. -/
def IsNumeral (c : Char) : Prop := c.isDigit ∨ c ∈ ['-', '.', 'i', 'n', 'f', 'N', 'a']

instance (c : Char) : Decidable (IsNumeral c) := inferInstanceAs (Decidable (_ ∨ _))

theorem IsNumeral.isPlain {c : Char} (h : IsNumeral c) : IsPlain c := by
  rcases h with h | h
  · have h9 : c.toNat ≤ '9'.toNat := (Char.isDigit_iff_toNat.mp h).2
    refine ⟨Nat.lt_of_le_of_lt h9 (by decide), ?_⟩
    rintro rfl
    exact absurd h (by decide)
  · have hall : ['-', '.', 'i', 'n', 'f', 'N', 'a'].all fun c => decide (IsPlain c) := by decide
    exact of_decide_eq_true (List.all_eq_true.mp hall c h)

theorem isNumeral_of_mem_sixPlaces {n : Nat} {c : Char} (h : c ∈ sixPlaces n) : IsNumeral c := by
  rw [sixPlaces, List.mem_append, List.mem_cons] at h
  rcases h with h | rfl | h
  · exact Or.inl (isDigit_of_mem_digits h)
  · exact Or.inr (by decide)
  · exact Or.inl (isDigit_of_mem_leftpad h)

theorem isNumeral_of_mem_minusIf {negative : Bool} {s : List Char} (hs : ∀ c ∈ s, IsNumeral c)
    {c : Char} (h : c ∈ minusIf negative s) : IsNumeral c := by
  cases negative with
  | false => exact hs c h
  | true =>
    rcases List.mem_cons.mp h with rfl | h
    · exact Or.inr (by decide)
    · exact hs c h

/-- A printed double has letters, digits, minus signs and points only. -/
theorem Binary64.isNumeral_of_mem_toFixed {x : Binary64} {c : Char} (h : c ∈ x.toFixed) :
    IsNumeral c := by
  cases x with
  | nan =>
    have hsub : ['N', 'a', 'N'] ⊆ ['-', '.', 'i', 'n', 'f', 'N', 'a'] := by decide
    exact Or.inr (hsub h)
  | infinite negative =>
    have hsub : ['i', 'n', 'f'] ⊆ ['-', '.', 'i', 'n', 'f', 'N', 'a'] := by decide
    exact isNumeral_of_mem_minusIf (fun _ hc => Or.inr (hsub hc)) h
  | finite negative m => exact isNumeral_of_mem_minusIf (fun _ => isNumeral_of_mem_sixPlaces) h

theorem Binary64.plainText_toFixed (x : Binary64) : PlainText x.toFixed :=
  fun _ h => (isNumeral_of_mem_toFixed h).isPlain

theorem Color.plainText_render (c : Color) : PlainText c.render := by
  have hr := c.red.plainText_toFixed
  have hg := c.green.plainText_toFixed
  have hb := c.blue.plainText_toFixed
  unfold render
  simp only [plainText_append]
  refine ⟨⟨⟨⟨⟨⟨?_, hr⟩, ?_⟩, hg⟩, ?_⟩, hb⟩, ?_⟩ <;> simp [PlainText, IsPlain]

end ColorCube
