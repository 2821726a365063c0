/-!
# UTF-8

Decoding never fails. The decoder takes one byte at a time and keeps the character it has begun as a
range for the next byte. A byte outside of that range ends the character: the bytes taken so far become
one replacement character, and the byte is looked at again as a first byte.
-/

namespace ColorCube

def encodeUtf8 (s : List Char) : List UInt8 := s.flatMap String.utf8EncodeChar

def replacement : Char := '\uFFFD'

/-- A character that has been begun: how many bytes are still due, the range that the next one has to
lie in, and the bits of those before it. -/
structure Pending where
  due : Nat
  low : Nat
  high : Nat
  bits : Nat
  deriving DecidableEq, Repr

/-- What a first byte from 0x80 on begins, if it can begin anything. -/
def Pending.ofFirst? (b : Nat) : Option Pending :=
  if 0xC2 ≤ b ∧ b ≤ 0xDF then some ⟨1, 0x80, 0xBF, b - 0xC0⟩
  else if b = 0xE0 then some ⟨2, 0xA0, 0xBF, 0⟩
  else if b = 0xED then some ⟨2, 0x80, 0x9F, 0xD⟩
  else if 0xE1 ≤ b ∧ b ≤ 0xEF then some ⟨2, 0x80, 0xBF, b - 0xE0⟩
  else if b = 0xF0 then some ⟨3, 0x90, 0xBF, 0⟩
  else if b = 0xF4 then some ⟨3, 0x80, 0x8F, 4⟩
  else if 0xF1 ≤ b ∧ b ≤ 0xF3 then some ⟨3, 0x80, 0xBF, b - 0xF0⟩
  else none

/-- A decoder between two bytes: the characters found so far, the latest first, and the one begun. -/
structure Decoder where
  found : List Char
  pending : Option Pending
  deriving DecidableEq, Repr

namespace Decoder

def first (found : List Char) (b : Nat) : Decoder :=
  if b < 0x80 then ⟨Char.ofNat b :: found, none⟩
  else match Pending.ofFirst? b with
    | some p => ⟨found, some p⟩
    | none => ⟨replacement :: found, none⟩

def feed (d : Decoder) (b : UInt8) : Decoder :=
  match d.pending with
  | none => first d.found b.toNat
  | some p =>
    if p.low ≤ b.toNat ∧ b.toNat ≤ p.high then
      let bits := p.bits * 64 + (b.toNat - 0x80)
      if p.due ≤ 1 then ⟨Char.ofNat bits :: d.found, none⟩
      else ⟨d.found, some ⟨p.due - 1, 0x80, 0xBF, bits⟩⟩
    else first (replacement :: d.found) b.toNat

/-- The text, where a character that the end cuts off is a replacement character. -/
def finish (d : Decoder) : List Char :=
  match d.pending with
  | none => d.found.reverse
  | some _ => (replacement :: d.found).reverse

end Decoder

def decodeUtf8 (bytes : List UInt8) : List Char := (bytes.foldl Decoder.feed ⟨[], none⟩).finish

@[simp] theorem decodeUtf8_nil : decodeUtf8 [] = [] := rfl

end ColorCube
