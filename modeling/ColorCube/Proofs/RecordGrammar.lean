import ColorCube.Proofs.SpelledNumbers
import ColorCube.Proofs.WhiteSpace

/-!
# The grammar of records

A line is a record when it divides into three words that spell finite doubles. Otherwise it is rejected, for the
number of its words or else for the first word from the left that is at fault. White space counts for nothing but the
places where words end.
-/

namespace ColorCube

/-- A word that spells a finite double. -/
def SpellsFinite (w : List Char) (x : Binary64) : Prop :=
  ∃ s : Spelling, s.text = w ∧ s.Denotes x ∧ x.isFinite

/-- What is wrong with a word that spells no finite double: it spells nothing at all, or infinity, or a number that is
rounded to infinity, or no number. -/
inductive WordFault (w : List Char) : RecordError → Prop where
  | notNumeric (h : ∀ s : Spelling, s.text ≠ w) : WordFault w (.notNumeric (.ofList w))
  | notFinite {s : Spelling} {x : Binary64} (hs : s.text = w) (hx : s.Denotes x) (h : x.isFinite = false) :
      WordFault w (.notFinite (.ofList w))

/-- What words are read as. Their number is looked at first. Of three words, the first one at fault decides, so that
those before it spell finite doubles; when none is at fault, each double is divided by full scale. -/
inductive ReadsAs (fullScale : Binary64) : List (List Char) → Except RecordError Color → Prop where
  | wordCount {ws : List (List Char)} (h : ws.length ≠ 3) : ReadsAs fullScale ws (.error (.wordCount ws.length))
  | fault {before after : List (List Char)} {w : List Char} {reason : RecordError}
      (hlength : (before ++ w :: after).length = 3) (hbefore : ∀ v ∈ before, ∃ x, SpellsFinite v x)
      (hw : WordFault w reason) : ReadsAs fullScale (before ++ w :: after) (.error reason)
  | color {r g b : List Char} {red green blue : Binary64} (hr : SpellsFinite r red) (hg : SpellsFinite g green)
      (hb : SpellsFinite b blue) :
      ReadsAs fullScale [r, g, b] (.ok ⟨red / fullScale, green / fullScale, blue / fullScale⟩)

section Words

variable {w : List Char} {x : Binary64} {reason : RecordError}

theorem SpellsFinite.readChannel_eq (h : SpellsFinite w x) : readChannel w = .ok x := by
  obtain ⟨s, rfl, hx, hfinite⟩ := h
  obtain rfl := Spelling.denotes_iff.mp hx
  simp only [readChannel, s.ofChars?_text, hfinite, if_true]

theorem WordFault.readChannel_eq (h : WordFault w reason) : readChannel w = .error reason := by
  cases h with
  | notNumeric h =>
    cases hl : Literal.ofChars? w with
    | none => simp only [readChannel, hl]
    | some l =>
      obtain ⟨s, hs, -⟩ := Spelling.exists_of_ofChars? hl
      exact absurd hs (h s)
  | @notFinite s x hs hx h =>
    subst hs
    obtain rfl := Spelling.denotes_iff.mp hx
    simp only [readChannel, s.ofChars?_text, h, Bool.false_eq_true, if_false]

/-- A word spells a finite double or is at fault. -/
theorem spellsFinite_or_wordFault (w : List Char) : (∃ x, SpellsFinite w x) ∨ ∃ reason, WordFault w reason := by
  cases hl : Literal.ofChars? w with
  | none =>
    refine Or.inr ⟨_, .notNumeric ?_⟩
    rintro s rfl
    rw [s.ofChars?_text] at hl
    cases hl
  | some l =>
    obtain ⟨s, hs, rfl⟩ := Spelling.exists_of_ofChars? hl
    have hx : s.Denotes s.literal.value := Spelling.denotes_iff.mpr rfl
    cases hfinite : s.literal.value.isFinite with
    | true => exact Or.inl ⟨_, s, hs, hx, hfinite⟩
    | false => exact Or.inr ⟨_, .notFinite hs hx hfinite⟩

end Words

section Lines

variable {fullScale : Binary64} {line other : List Char} {r : Except RecordError Color}

theorem readRecord_of_words {red green blue : List Char} (h : words line = [red, green, blue]) :
    readRecord fullScale line = do
      let r ← readChannel red
      let g ← readChannel green
      let b ← readChannel blue
      return ⟨r / fullScale, g / fullScale, b / fullScale⟩ := by
  unfold readRecord
  simp only [h]
  cases readChannel red with
  | error e => rfl
  | ok x =>
    cases readChannel green with
    | error e => rfl
    | ok y => cases readChannel blue <;> rfl

theorem ReadsAs.readRecord_eq {ws : List (List Char)} (h : ReadsAs fullScale ws r) (hws : words line = ws) :
    readRecord fullScale line = r := by
  cases h with
  | wordCount h =>
    subst hws
    exact readRecord_of_length_words h fullScale
  | @fault before after w reason hlength hbefore hw =>
    -- The word at fault is the first, the second or the third one.
    rcases before with _ | ⟨u, _ | ⟨v, _ | ⟨t, rest⟩⟩⟩
    · obtain ⟨g, b, rfl⟩ := List.length_eq_two.mp (Nat.succ.inj hlength)
      rw [readRecord_of_words hws, hw.readChannel_eq]
      rfl
    · obtain ⟨b, rfl⟩ := List.length_eq_one_iff.mp (Nat.succ.inj (Nat.succ.inj hlength))
      obtain ⟨x, hu⟩ := hbefore u List.mem_cons_self
      rw [readRecord_of_words hws, hu.readChannel_eq, hw.readChannel_eq]
      rfl
    · obtain rfl := List.length_eq_zero_iff.mp (Nat.succ.inj (Nat.succ.inj (Nat.succ.inj hlength)))
      obtain ⟨x, hu⟩ := hbefore u List.mem_cons_self
      obtain ⟨y, hv⟩ := hbefore v (List.mem_cons_of_mem u List.mem_cons_self)
      rw [readRecord_of_words hws, hu.readChannel_eq, hv.readChannel_eq, hw.readChannel_eq]
      rfl
    · simp only [List.length_append, List.length_cons] at hlength
      omega
  | color hr hg hb =>
    rw [readRecord_of_words hws, hr.readChannel_eq, hg.readChannel_eq, hb.readChannel_eq]
    rfl

/-- Whatever the words are, they are read as something. -/
theorem exists_readsAs (fullScale : Binary64) (ws : List (List Char)) : ∃ r, ReadsAs fullScale ws r := by
  by_cases h : ws.length = 3
  · obtain ⟨r, g, b, rfl⟩ := List.length_eq_three.mp h
    rcases spellsFinite_or_wordFault r with ⟨red, hr⟩ | ⟨reason, hr⟩
    · rcases spellsFinite_or_wordFault g with ⟨green, hg⟩ | ⟨reason, hg⟩
      · rcases spellsFinite_or_wordFault b with ⟨blue, hb⟩ | ⟨reason, hb⟩
        · exact ⟨_, .color hr hg hb⟩
        · have hbefore : ∀ v ∈ [r, g], ∃ x, SpellsFinite v x :=
            List.forall_mem_cons.mpr ⟨⟨red, hr⟩, List.forall_mem_singleton.mpr ⟨green, hg⟩⟩
          have hread : ReadsAs fullScale ([r, g] ++ b :: []) (.error reason) := .fault rfl hbefore hb
          exact ⟨_, hread⟩
      · have hbefore : ∀ v ∈ [r], ∃ x, SpellsFinite v x := List.forall_mem_singleton.mpr ⟨red, hr⟩
        have hread : ReadsAs fullScale ([r] ++ g :: [b]) (.error reason) := .fault rfl hbefore hg
        exact ⟨_, hread⟩
    · have hread : ReadsAs fullScale ([] ++ r :: [g, b]) (.error reason) :=
        .fault rfl (List.forall_mem_nil _) hr
      exact ⟨_, hread⟩
  · exact ⟨_, .wordCount h⟩

theorem readRecord_eq_iff : readRecord fullScale line = r ↔ ReadsAs fullScale (words line) r := by
  constructor
  · rintro rfl
    obtain ⟨r, h⟩ := exists_readsAs fullScale (words line)
    rwa [h.readRecord_eq rfl]
  · intro h
    exact h.readRecord_eq rfl

end Lines

/-- A line divides into words in one way, and what it is read as is settled by these words: by their number, by the
first of three words that spells no finite double, or by the doubles that the three spell. Lines that divide into the
same words are read alike, whatever white space they have. -/
theorem readRecord_follows_grammar (fullScale : Binary64) (line : List Char) :
    (∃! ws, SplitsInto line ws) ∧
    ∀ ws, SplitsInto line ws →
      (∀ r, readRecord fullScale line = r ↔ ReadsAs fullScale ws r) ∧
      ∀ other, SplitsInto other ws → readRecord fullScale other = readRecord fullScale line := by
  constructor
  · refine ⟨words line, splitsInto_iff.mpr rfl, ?_⟩
    intro ws h
    exact (splitsInto_iff.mp h).symm
  · intro ws h
    obtain rfl := splitsInto_iff.mp h
    refine ⟨fun r => readRecord_eq_iff, ?_⟩
    intro other hother
    exact readRecord_congr (splitsInto_iff.mp hother) fullScale

/-- Of two words at fault it is the one further to the left that is named, here a decimal that is too large. -/
theorem readRecord_follows_grammar_of_two_faults :
    let line := "1 +1e400 x".toList
    let spaced := "\u2003 1\t+1e400\u00A0 x\r".toList
    let ws := ["1".toList, "+1e400".toList, "x".toList]
    SplitsInto line ws ∧ SplitsInto spaced ws ∧
    ReadsAs (.ofNat 4095) ws (.error (.notFinite "+1e400")) ∧
    readRecord (.ofNat 4095) spaced = readRecord (.ofNat 4095) line := by
  intro line spaced ws
  have hline : SplitsInto line ws := splitsInto_iff.mpr (by decide)
  have hspaced : SplitsInto spaced ws := splitsInto_iff.mpr (by decide)
  have hread : readRecord (.ofNat 4095) line = .error (.notFinite "+1e400") := by decide +kernel
  obtain ⟨-, h⟩ := readRecord_follows_grammar (.ofNat 4095) line
  obtain ⟨hiff, hsame⟩ := h ws hline
  exact ⟨hline, hspaced, (hiff _).mp hread, hsame spaced hspaced⟩

end ColorCube
