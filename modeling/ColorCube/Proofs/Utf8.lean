import ColorCube.Stream
import ColorCube.Proofs.LineBreaks

/-!
# Text behind bytes

Every character of a decoded text stands for the bytes that encode it, but for replacement characters: one of
these may also stand for bytes that encode nothing. So text is read back from its bytes, bytes that are no text
leave a replacement character behind, and the lines of a decoded text are its decoded lines.
-/

namespace ColorCube

/-- Bytes that some text is encoded to. -/
def IsUtf8 (bytes : List UInt8) : Prop := ∃ s, encodeUtf8 s = bytes

@[simp] theorem encodeUtf8_nil : encodeUtf8 [] = [] := rfl

@[simp] theorem encodeUtf8_cons (c : Char) (s : List Char) :
    encodeUtf8 (c :: s) = String.utf8EncodeChar c ++ encodeUtf8 s := List.flatMap_cons

@[simp] theorem encodeUtf8_append (s t : List Char) :
    encodeUtf8 (s ++ t) = encodeUtf8 s ++ encodeUtf8 t := List.flatMap_append

theorem val_ofNat_of_isValidChar {n : Nat} (h : n.isValidChar) : (Char.ofNat n).val.toNat = n := by
  rw [Char.ofNat, dif_pos h]
  rfl

theorem ofNat_eq_of_toNat {n : Nat} {b : UInt8} (h : n = b.toNat) : UInt8.ofNat n = b := by
  rw [h, UInt8.ofNat_toNat]

theorem utf8EncodeChar_one {c : Char} (h : c.toNat < 0x80) :
    String.utf8EncodeChar c = [UInt8.ofNat c.toNat] := by
  have hle : c.val.toNat ≤ 0x7F := Nat.le_of_lt_succ h
  simp only [String.utf8EncodeChar, hle, if_true]
  rfl

theorem utf8EncodeChar_two {a b : UInt8} {n : Nat} (hn : n = (a.toNat - 0xC0) * 64 + (b.toNat - 0x80))
    (ha : 0xC2 ≤ a.toNat ∧ a.toNat ≤ 0xDF) (hb : 0x80 ≤ b.toNat ∧ b.toNat ≤ 0xBF) :
    String.utf8EncodeChar (Char.ofNat n) = [a, b] := by
  have hv : (Char.ofNat n).val.toNat = n := val_ofNat_of_isValidChar (Or.inl (by omega))
  have h₁ : ¬ n ≤ 0x7F := by omega
  have h₂ : n ≤ 0x7FF := by omega
  have hfirst : UInt8.ofNat (n / 64 % 32 + 0xC0) = a := ofNat_eq_of_toNat (by omega)
  have hlast : UInt8.ofNat (n % 64 + 0x80) = b := ofNat_eq_of_toNat (by omega)
  simp only [String.utf8EncodeChar, hv, h₁, h₂, hfirst, hlast, if_true, if_false]

theorem utf8EncodeChar_three {a b c : UInt8} {n : Nat}
    (hn : n = ((a.toNat - 0xE0) * 64 + (b.toNat - 0x80)) * 64 + (c.toNat - 0x80))
    (ha : 0xE0 ≤ a.toNat ∧ a.toNat ≤ 0xEF) (hb : 0x80 ≤ b.toNat ∧ b.toNat ≤ 0xBF)
    (hc : 0x80 ≤ c.toNat ∧ c.toNat ≤ 0xBF) (hlow : a.toNat = 0xE0 → 0xA0 ≤ b.toNat)
    (hhigh : a.toNat = 0xED → b.toNat ≤ 0x9F) :
    String.utf8EncodeChar (Char.ofNat n) = [a, b, c] := by
  have hv : (Char.ofNat n).val.toNat = n := val_ofNat_of_isValidChar (by unfold Nat.isValidChar; omega)
  have h₁ : ¬ n ≤ 0x7F := by omega
  have h₂ : ¬ n ≤ 0x7FF := by omega
  have h₃ : n ≤ 0xFFFF := by omega
  have hfirst : UInt8.ofNat (n / 4096 % 16 + 0xE0) = a := ofNat_eq_of_toNat (by omega)
  have hsecond : UInt8.ofNat (n / 64 % 64 + 0x80) = b := ofNat_eq_of_toNat (by omega)
  have hlast : UInt8.ofNat (n % 64 + 0x80) = c := ofNat_eq_of_toNat (by omega)
  simp only [String.utf8EncodeChar, hv, h₁, h₂, h₃, hfirst, hsecond, hlast, if_true, if_false]

theorem utf8EncodeChar_four {a b c d : UInt8} {n : Nat}
    (hn : n = (((a.toNat - 0xF0) * 64 + (b.toNat - 0x80)) * 64 + (c.toNat - 0x80)) * 64 + (d.toNat - 0x80))
    (ha : 0xF0 ≤ a.toNat ∧ a.toNat ≤ 0xF4) (hb : 0x80 ≤ b.toNat ∧ b.toNat ≤ 0xBF)
    (hc : 0x80 ≤ c.toNat ∧ c.toNat ≤ 0xBF) (hd : 0x80 ≤ d.toNat ∧ d.toNat ≤ 0xBF)
    (hlow : a.toNat = 0xF0 → 0x90 ≤ b.toNat) (hhigh : a.toNat = 0xF4 → b.toNat ≤ 0x8F) :
    String.utf8EncodeChar (Char.ofNat n) = [a, b, c, d] := by
  have hv : (Char.ofNat n).val.toNat = n := val_ofNat_of_isValidChar (by unfold Nat.isValidChar; omega)
  have h₁ : ¬ n ≤ 0x7F := by omega
  have h₂ : ¬ n ≤ 0x7FF := by omega
  have h₃ : ¬ n ≤ 0xFFFF := by omega
  have hfirst : UInt8.ofNat (n / 262144 % 8 + 0xF0) = a := ofNat_eq_of_toNat (by omega)
  have hsecond : UInt8.ofNat (n / 4096 % 64 + 0x80) = b := ofNat_eq_of_toNat (by omega)
  have hthird : UInt8.ofNat (n / 64 % 64 + 0x80) = c := ofNat_eq_of_toNat (by omega)
  have hlast : UInt8.ofNat (n % 64 + 0x80) = d := ofNat_eq_of_toNat (by omega)
  simp only [String.utf8EncodeChar, hv, h₁, h₂, h₃, hfirst, hsecond, hthird, hlast, if_false]

namespace Pending

/-- Whether a byte lies in the range for the next one. -/
def Accepts (p : Pending) (b : UInt8) : Prop := p.low ≤ b.toNat ∧ b.toNat ≤ p.high

/-- A character that has been begun, with one byte more. -/
def next (p : Pending) (b : UInt8) : Pending := ⟨p.due - 1, 0x80, 0xBF, p.bits * 64 + (b.toNat - 0x80)⟩

@[simp] theorem due_next (p : Pending) (b : UInt8) : (p.next b).due = p.due - 1 := rfl

@[simp] theorem bits_next (p : Pending) (b : UInt8) :
    (p.next b).bits = p.bits * 64 + (b.toNat - 0x80) := rfl

/-- The bytes that complete a character, and the character that it is then. -/
inductive Completes : Pending → List UInt8 → Char → Prop where
  | last {p : Pending} {b : UInt8} {c : Char} (hdue : p.due ≤ 1) (hb : p.Accepts b)
      (hc : c = Char.ofNat (p.next b).bits) : Completes p [b] c
  | more {p : Pending} {b : UInt8} {rest : List UInt8} {c : Char} (hdue : 1 < p.due) (hb : p.Accepts b)
      (h : Completes (p.next b) rest c) : Completes p (b :: rest) c

theorem ofFirst?_two {b : Nat} (h : 0xC2 ≤ b ∧ b ≤ 0xDF) :
    ofFirst? b = some ⟨1, 0x80, 0xBF, b - 0xC0⟩ := by
  rw [ofFirst?, if_pos h]

theorem ofFirst?_three {b : Nat} (h : 0xE0 ≤ b ∧ b ≤ 0xEF) :
    ofFirst? b = some ⟨2, if b = 0xE0 then 0xA0 else 0x80, if b = 0xED then 0x9F else 0xBF, b - 0xE0⟩ := by
  have hone : ¬ (0xC2 ≤ b ∧ b ≤ 0xDF) := by omega
  rw [ofFirst?, if_neg hone]
  by_cases h₀ : b = 0xE0
  · simp [h₀]
  · by_cases hd : b = 0xED
    · simp [hd]
    · have hrest : 0xE1 ≤ b ∧ b ≤ 0xEF := by omega
      simp only [h₀, hd, hrest, and_self, if_true, if_false]

theorem ofFirst?_four {b : Nat} (h : 0xF0 ≤ b ∧ b ≤ 0xF4) :
    ofFirst? b = some ⟨3, if b = 0xF0 then 0x90 else 0x80, if b = 0xF4 then 0x8F else 0xBF, b - 0xF0⟩ := by
  have hone : ¬ (0xC2 ≤ b ∧ b ≤ 0xDF) := by omega
  have hthree : b ≠ 0xE0 ∧ b ≠ 0xED ∧ ¬ (0xE1 ≤ b ∧ b ≤ 0xEF) := by omega
  rw [ofFirst?, if_neg hone, if_neg hthree.1, if_neg hthree.2.1, if_neg hthree.2.2]
  by_cases h₀ : b = 0xF0
  · simp [h₀]
  · by_cases h₄ : b = 0xF4
    · simp [h₄]
    · have hrest : 0xF1 ≤ b ∧ b ≤ 0xF3 := by omega
      simp only [h₀, h₄, hrest, and_self, if_true, if_false]

theorem low_of_ofFirst? {b : Nat} {p : Pending} (h : ofFirst? b = some p) : 0x80 ≤ p.low := by
  unfold ofFirst? at h
  grind

/-- No other byte begins a character. -/
theorem ofFirst?_none {b : Nat} (h : b < 0xC2 ∨ 0xF4 < b) : ofFirst? b = none := by
  unfold ofFirst?
  repeat rw [if_neg (by omega)]

theorem Completes.eq_last {p : Pending} {rest : List UInt8} {c : Char} (h : p.Completes rest c)
    (hdue : p.due ≤ 1) : ∃ b, rest = [b] ∧ p.Accepts b ∧ c = Char.ofNat (p.next b).bits := by
  cases h with
  | last _ hb hc => exact ⟨_, rfl, hb, hc⟩
  | more hmore => omega

theorem Completes.exists_more {p : Pending} {rest : List UInt8} {c : Char} (h : p.Completes rest c)
    (hdue : 1 < p.due) : ∃ b tail, rest = b :: tail ∧ p.Accepts b ∧ (p.next b).Completes tail c := by
  cases h with
  | last hlast => omega
  | more _ hb h => exact ⟨_, _, rfl, hb, h⟩

/-- What completes a character that a byte begins makes up its encoding together with that byte. -/
theorem utf8EncodeChar_of_completes {a : UInt8} {p : Pending} (hp : ofFirst? a.toNat = some p)
    {rest : List UInt8} {c : Char} (h : p.Completes rest c) : String.utf8EncodeChar c = a :: rest := by
  have ha : (a.toNat < 0xC2 ∨ 0xF4 < a.toNat) ∨ (0xC2 ≤ a.toNat ∧ a.toNat ≤ 0xDF) ∨
      (0xE0 ≤ a.toNat ∧ a.toNat ≤ 0xEF) ∨ (0xF0 ≤ a.toNat ∧ a.toNat ≤ 0xF4) := by omega
  rcases ha with ha | ha | ha | ha
  · rw [ofFirst?_none ha] at hp
    cases hp
  · rw [ofFirst?_two ha] at hp
    cases hp
    obtain ⟨b, rfl, hb, he⟩ := h.eq_last (by simp)
    rw [he]
    exact utf8EncodeChar_two (by simp) ha hb
  · rw [ofFirst?_three ha] at hp
    cases hp
    obtain ⟨b, _, rfl, hb, h⟩ := h.exists_more (by simp)
    obtain ⟨c, rfl, hc, he⟩ := h.eq_last (by simp)
    simp only [Accepts] at hb
    rw [he]
    exact utf8EncodeChar_three (by simp) ha (by grind) hc (by grind) (by grind)
  · rw [ofFirst?_four ha] at hp
    cases hp
    obtain ⟨b, _, rfl, hb, h⟩ := h.exists_more (by simp)
    obtain ⟨c, _, rfl, hc, h⟩ := h.exists_more (by simp)
    obtain ⟨d, rfl, hd, he⟩ := h.eq_last (by simp)
    simp only [Accepts] at hb
    rw [he]
    exact utf8EncodeChar_four (by simp) ha (by grind) hc hd (by grind) (by grind)

/-- A character past the ASCII ones is begun by the first byte of its encoding and completed by the others. -/
theorem exists_completes {c : Char} (h : 0x80 ≤ c.val.toNat) :
    ∃ a p rest, String.utf8EncodeChar c = a :: rest ∧ ofFirst? a.toNat = some p ∧ p.Completes rest c := by
  have hvalid : c.val.toNat < 0xD800 ∨ 0xDFFF < c.val.toNat ∧ c.val.toNat < 0x110000 := c.valid
  have hself : ∀ n, n = c.val.toNat → c = Char.ofNat n := by
    rintro n rfl
    exact (Char.ofNat_toNat c).symm
  have h₁ : ¬ c.val.toNat ≤ 0x7F := by omega
  simp only [String.utf8EncodeChar, h₁, if_false]
  generalize c.val.toNat = v at *
  have htail : ∀ n, (UInt8.ofNat (n % 64 + 0x80)).toNat = n % 64 + 0x80 :=
    by
    intro n
    rw [UInt8.toNat_ofNat']
    omega
  by_cases h₂ : v ≤ 0x7FF
  · have ha : (UInt8.ofNat (v / 64 % 32 + 0xC0)).toNat = v / 64 + 0xC0 := by
      rw [UInt8.toNat_ofNat']
      omega
    simp only [h₂, if_true]
    refine ⟨_, _, _, rfl, ofFirst?_two (by omega), .last (Nat.le_refl 1) ?_ (hself _ ?_)⟩
    · simp only [Accepts, htail]
      omega
    · simp only [bits_next, htail, ha]
      omega
  by_cases h₃ : v ≤ 0xFFFF
  · have ha : (UInt8.ofNat (v / 4096 % 16 + 0xE0)).toNat = v / 4096 + 0xE0 := by
      rw [UInt8.toNat_ofNat']
      omega
    simp only [h₂, h₃, if_true, if_false]
    refine ⟨_, _, _, rfl, ofFirst?_three (by omega), .more (by simp) ?_ (.last (by simp) ?_ (hself _ ?_))⟩
    · simp only [Accepts, htail, ha]
      grind
    · simp only [Accepts, next, htail]
      omega
    · simp only [bits_next, htail, ha]
      omega
  · have ha : (UInt8.ofNat (v / 262144 % 8 + 0xF0)).toNat = v / 262144 + 0xF0 := by
      rw [UInt8.toNat_ofNat']
      omega
    simp only [h₂, h₃, if_false]
    refine ⟨_, _, _, rfl, ofFirst?_four (by omega), .more (by simp) ?_
      (.more (by simp) ?_ (.last (by simp) ?_ (hself _ ?_)))⟩
    · simp only [Accepts, htail, ha]
      grind
    · simp only [Accepts, next, htail]
      omega
    · simp only [Accepts, next, htail]
      omega
    · simp only [bits_next, htail, ha]
      omega

end Pending

/-- A text that decoding may make of bytes: a character stands for its encoding, and a replacement character may
also stand for any other bytes, one at least. -/
inductive Decodes : List UInt8 → List Char → Prop where
  | nil : Decodes [] []
  | char {bytes : List UInt8} {s : List Char} (h : Decodes bytes s) (c : Char) :
      Decodes (bytes ++ String.utf8EncodeChar c) (s ++ [c])
  | replaced {bytes part : List UInt8} {s : List Char} (h : Decodes bytes s) (hpart : part ≠ []) :
      Decodes (bytes ++ part) (s ++ [replacement])

namespace Decodes

variable {bytes : List UInt8} {s : List Char}

theorem eq_nil_iff (h : Decodes bytes s) : s = [] ↔ bytes = [] := by
  cases h with
  | nil => simp
  | char h c => simp
  | replaced h hpart => simp [hpart]

/-- Without replacement characters the text is encoded to the bytes. -/
theorem encodeUtf8_eq (h : Decodes bytes s) (hs : replacement ∉ s) : encodeUtf8 s = bytes := by
  induction h with
  | nil => rfl
  | char h c ih =>
    rw [List.mem_append, not_or] at hs
    simp [ih hs.1]
  | replaced h hpart ih => simp at hs

/-- A newline in the text is one in the bytes. -/
theorem newlineByte_mem (h : Decodes bytes s) (hs : '\n' ∈ s) : newlineByte ∈ bytes := by
  induction h with
  | nil => cases hs
  | char h c ih =>
    rcases List.mem_append.mp hs with hs | hs
    · exact List.mem_append_left _ (ih hs)
    · rw [← List.mem_singleton.mp hs]
      exact List.mem_append_right _ (by decide)
  | replaced h hpart ih =>
    rcases List.mem_append.mp hs with hs | hs
    · exact List.mem_append_left _ (ih hs)
    · exact absurd (List.mem_singleton.mp hs) (by decide)

end Decodes

namespace Decoder

variable {found : List Char} {p : Pending} {b : UInt8}

theorem feed_last (hdue : p.due ≤ 1) (hb : p.Accepts b) :
    feed ⟨found, some p⟩ b = ⟨Char.ofNat (p.next b).bits :: found, none⟩ := by
  rw [Pending.Accepts] at hb
  simp only [feed, if_pos hb, if_pos hdue, Pending.bits_next]

theorem feed_more (hdue : 1 < p.due) (hb : p.Accepts b) :
    feed ⟨found, some p⟩ b = ⟨found, some (p.next b)⟩ := by
  rw [Pending.Accepts] at hb
  simp only [feed, if_pos hb, if_neg (Nat.not_le.mpr hdue), Pending.next]

theorem feed_refused (hb : ¬ p.Accepts b) :
    feed ⟨found, some p⟩ b = first (replacement :: found) b.toNat := by
  rw [Pending.Accepts] at hb
  simp only [feed, if_neg hb]

theorem foldl_feed_of_completes {rest : List UInt8} {c : Char} (h : p.Completes rest c) :
    rest.foldl feed ⟨found, some p⟩ = ⟨c :: found, none⟩ := by
  induction h with
  | last hdue hb hc => rw [List.foldl_cons, List.foldl_nil, feed_last hdue hb, hc]
  | more hdue hb h ih => rw [List.foldl_cons, feed_more hdue hb, ih]

theorem foldl_feed_utf8EncodeChar (found : List Char) (c : Char) :
    (String.utf8EncodeChar c).foldl feed ⟨found, none⟩ = ⟨c :: found, none⟩ := by
  rcases Nat.lt_or_ge c.toNat 0x80 with hc | hc
  · have hb : (UInt8.ofNat c.toNat).toNat = c.toNat := by
      rw [UInt8.toNat_ofNat']
      omega
    rw [utf8EncodeChar_one hc]
    simp [feed, first, hb, hc]
  · obtain ⟨a, p, rest, he, hp, h⟩ := Pending.exists_completes hc
    have ha : ¬ a.toNat < 0x80 := by
      intro hlt
      rw [Pending.ofFirst?_none (by omega)] at hp
      cases hp
    have hfirst : feed ⟨found, none⟩ a = ⟨found, some p⟩ := by
      simp only [feed, first, if_neg ha, hp]
    rw [he, List.foldl_cons, hfirst, foldl_feed_of_completes h]

theorem foldl_feed_encodeUtf8 (found s : List Char) :
    (encodeUtf8 s).foldl feed ⟨found, none⟩ = ⟨s.reverse ++ found, none⟩ := by
  induction s generalizing found with
  | nil => rfl
  | cons c s ih => simp [List.foldl_append, foldl_feed_utf8EncodeChar, ih]

/-- What a decoder knows of the bytes it was fed: the characters that it has found make up a text for them, those
aside that belong to the character which has been begun. -/
inductive Knows : Decoder → List UInt8 → Prop where
  | rest {found : List Char} {bytes : List UInt8} (h : Decodes bytes found.reverse) :
      Knows ⟨found, none⟩ bytes
  | begun {found : List Char} {before begun : List UInt8} {p : Pending} (h : Decodes before found.reverse)
      (hne : begun ≠ []) (hp : ∀ rest c, p.Completes rest c → String.utf8EncodeChar c = begun ++ rest)
      (hlow : 0x80 ≤ p.low) : Knows ⟨found, some p⟩ (before ++ begun)

theorem knows_first {bytes : List UInt8} (h : Decodes bytes found.reverse) (b : UInt8) :
    Knows (first found b.toNat) (bytes ++ [b]) := by
  unfold first
  by_cases hb : b.toNat < 0x80
  · have hc : (Char.ofNat b.toNat).toNat = b.toNat := val_ofNat_of_isValidChar (Or.inl (by omega))
    have hchar := h.char (Char.ofNat b.toNat)
    rw [utf8EncodeChar_one (by rwa [hc]), hc, UInt8.ofNat_toNat, ← List.reverse_cons] at hchar
    rw [if_pos hb]
    exact .rest hchar
  · rw [if_neg hb]
    cases hp : Pending.ofFirst? b.toNat with
    | none =>
      have hpart := h.replaced (List.cons_ne_nil b [])
      rw [← List.reverse_cons] at hpart
      exact .rest hpart
    | some p =>
      exact .begun h (List.cons_ne_nil b []) (fun rest c => Pending.utf8EncodeChar_of_completes hp)
        (Pending.low_of_ofFirst? hp)

theorem knows_feed {d : Decoder} {bytes : List UInt8} (h : d.Knows bytes) (b : UInt8) :
    (d.feed b).Knows (bytes ++ [b]) := by
  cases h with
  | rest h => exact knows_first h b
  | @begun found before begun p h hne hp hlow =>
    by_cases hb : p.Accepts b
    · rcases Nat.lt_or_ge 1 p.due with hdue | hdue
      · rw [feed_more hdue hb, List.append_assoc]
        refine .begun h (by simp) (fun rest c hc => ?_) (Nat.le_refl 0x80)
        rw [List.append_assoc]
        exact hp _ _ (.more hdue hb hc)
      · have hchar := h.char (Char.ofNat (p.next b).bits)
        rw [hp _ _ (.last hdue hb rfl), ← List.reverse_cons, ← List.append_assoc] at hchar
        rw [feed_last hdue hb]
        exact .rest hchar
    · have hpart := h.replaced hne
      rw [← List.reverse_cons] at hpart
      rw [feed_refused hb]
      exact knows_first hpart b

theorem knows_foldl {d : Decoder} {bytes : List UInt8} (h : d.Knows bytes) (rest : List UInt8) :
    (rest.foldl feed d).Knows (bytes ++ rest) := by
  induction rest generalizing d bytes with
  | nil => rwa [List.append_nil]
  | cons b rest ih =>
    have hb := ih (knows_feed h b)
    rwa [List.append_assoc] at hb

theorem knows_run (bytes : List UInt8) : (bytes.foldl feed ⟨[], none⟩).Knows bytes := by
  have hstart : Knows ⟨[], none⟩ [] := .rest .nil
  exact knows_foldl hstart bytes

theorem Knows.decodes {d : Decoder} {bytes : List UInt8} (h : d.Knows bytes) : Decodes bytes d.finish := by
  cases h with
  | rest h => exact h
  | begun h hne hp hlow =>
    rw [finish, List.reverse_cons]
    exact h.replaced hne

/-- An ASCII character ends whatever has been begun. -/
theorem Knows.feed_ascii {d : Decoder} {bytes : List UInt8} (h : d.Knows bytes) {b : UInt8} (hb : b.toNat < 0x80) :
    d.feed b = ⟨Char.ofNat b.toNat :: d.finish.reverse, none⟩ := by
  cases h with
  | rest h => simp [feed, first, finish, hb]
  | begun h hne hp hlow =>
    have hrefused : ¬ Pending.Accepts _ b := fun ha => absurd (Nat.le_trans hlow ha.1) (Nat.not_le.mpr hb)
    rw [feed_refused hrefused]
    simp [first, finish, hb]

/-- The decoder with other characters found before. -/
def behind (before : List Char) (d : Decoder) : Decoder := ⟨d.found ++ before, d.pending⟩

theorem first_append (found before : List Char) (b : Nat) :
    first (found ++ before) b = (first found b).behind before := by
  unfold first
  split
  · rfl
  · split <;> rfl

theorem feed_behind (before : List Char) (d : Decoder) (b : UInt8) :
    (d.behind before).feed b = (d.feed b).behind before := by
  obtain ⟨found, pending⟩ := d
  cases pending with
  | none => exact first_append found before b.toNat
  | some p =>
    by_cases hb : p.Accepts b
    · rcases Nat.lt_or_ge 1 p.due with hdue | hdue
      · simp only [behind, feed_more hdue hb]
      · simp only [behind, feed_last hdue hb, List.cons_append]
    · simp only [behind, feed_refused hb]
      exact first_append (replacement :: found) before b.toNat

theorem foldl_feed_behind (before : List Char) (d : Decoder) (bytes : List UInt8) :
    bytes.foldl feed (d.behind before) = (bytes.foldl feed d).behind before := by
  induction bytes generalizing d with
  | nil => rfl
  | cons b bytes ih => rw [List.foldl_cons, feed_behind, ih, List.foldl_cons]

theorem finish_behind (before : List Char) (d : Decoder) :
    (d.behind before).finish = before.reverse ++ d.finish := by
  obtain ⟨found, pending⟩ := d
  cases pending <;> simp [behind, finish]

end Decoder

/-- Text is read back from its bytes. -/
@[simp] theorem decodeUtf8_encodeUtf8 (s : List Char) : decodeUtf8 (encodeUtf8 s) = s := by
  rw [decodeUtf8, Decoder.foldl_feed_encodeUtf8]
  simp [Decoder.finish]

theorem decodes_decodeUtf8 (bytes : List UInt8) : Decodes bytes (decodeUtf8 bytes) :=
  (Decoder.knows_run bytes).decodes

theorem isUtf8_iff {bytes : List UInt8} : IsUtf8 bytes ↔ encodeUtf8 (decodeUtf8 bytes) = bytes := by
  constructor
  · rintro ⟨s, rfl⟩
    rw [decodeUtf8_encodeUtf8]
  · intro h
    exact ⟨_, h⟩

instance (bytes : List UInt8) : Decidable (IsUtf8 bytes) := decidable_of_iff _ isUtf8_iff.symm

/-- Bytes that are no text leave a replacement character behind. -/
theorem replacement_mem_of_not_isUtf8 {bytes : List UInt8} (h : ¬ IsUtf8 bytes) :
    replacement ∈ decodeUtf8 bytes := by
  by_cases hs : replacement ∈ decodeUtf8 bytes
  · exact hs
  · exact absurd (isUtf8_iff.mpr ((decodes_decodeUtf8 bytes).encodeUtf8_eq hs)) h

theorem decodeUtf8_append_ascii_cons (s t : List UInt8) {b : UInt8} (hb : b.toNat < 0x80) :
    decodeUtf8 (s ++ b :: t) = decodeUtf8 s ++ Char.ofNat b.toNat :: decodeUtf8 t := by
  have hrest : (⟨Char.ofNat b.toNat :: (decodeUtf8 s).reverse, none⟩ : Decoder) =
      Decoder.behind (Char.ofNat b.toNat :: (decodeUtf8 s).reverse) ⟨[], none⟩ := rfl
  rw [decodeUtf8, List.foldl_append, List.foldl_cons, (Decoder.knows_run s).feed_ascii hb, ← decodeUtf8, hrest,
    Decoder.foldl_feed_behind, Decoder.finish_behind, ← decodeUtf8]
  simp

theorem decodeUtf8_append_cons (s t : List UInt8) :
    decodeUtf8 (s ++ newlineByte :: t) = decodeUtf8 s ++ '\n' :: decodeUtf8 t :=
  decodeUtf8_append_ascii_cons s t (by decide)

/-- The lines of a decoded text are the lines of the bytes, decoded one by one. -/
theorem lines_decodeUtf8 (bytes : List UInt8) :
    lines '\n' (decodeUtf8 bytes) = (lines newlineByte bytes).map decodeUtf8 := by
  have hclean : ∀ s : List UInt8, newlineByte ∉ s → '\n' ∉ decodeUtf8 s :=
    fun s hs h => hs ((decodes_decodeUtf8 s).newlineByte_mem h)
  induction bytes using induction_on_lines newlineByte with
  | unclosed s hs =>
    have hempty := (decodes_decodeUtf8 s).eq_nil_iff
    rw [lines_of_notMem hs, lines_of_notMem (hclean s hs)]
    by_cases h : s = [] <;> simp [h, hempty]
  | closed s t hs ih =>
    rw [decodeUtf8_append_cons, lines_closed (hclean s hs), lines_closed hs, ih, List.map_cons]

end ColorCube
