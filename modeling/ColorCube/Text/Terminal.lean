import ColorCube.Text.Utf8

/-!
# Control sequences

Text for a terminal may hold control sequences: escape sequences, which end with a letter or sign, and
control strings, which go on up to a terminator. `plainBytes` leaves out all of them, and all control
characters but white space, from well-formed UTF-8.

White space within a sequence is shown, and so is what comes next, up to the next control character; only
from there on it counts that the sequence was not complete.
-/

namespace ColorCube

inductive ControlState where
  | ground
  | escape
  | escapeIntermediate
  | controlSequence
  | deviceEntry
  | deviceParameter
  | deviceIntermediate
  | controlString
  | systemCommand
  deriving DecidableEq, Repr

namespace ControlState

/-- Whether control characters are carried out, and not part of a string. -/
def isCommand : ControlState → Bool
  | .ground | .escape | .escapeIntermediate | .controlSequence => true
  | _ => false

/-- The state behind a byte. Cancel and substitute end every sequence, and escape begins a new one. -/
def next (s : ControlState) (b : UInt8) : ControlState :=
  let n := b.toNat
  if n = 0x18 ∨ n = 0x1A then .ground
  else if n = 0x1B then .escape
  else match s with
    | .ground => .ground
    | .escape =>
      if 0x20 ≤ n ∧ n ≤ 0x2F then .escapeIntermediate
      else if n = 0x5B then .controlSequence
      else if n = 0x5D then .systemCommand
      else if n = 0x50 then .deviceEntry
      else if n = 0x58 ∨ n = 0x5E ∨ n = 0x5F then .controlString
      else if 0x30 ≤ n ∧ n ≤ 0x7E then .ground
      else .escape
    | .escapeIntermediate => if 0x30 ≤ n ∧ n ≤ 0x7E then .ground else .escapeIntermediate
    | .controlSequence => if 0x40 ≤ n ∧ n ≤ 0x7E then .ground else .controlSequence
    | .deviceEntry =>
      if 0x20 ≤ n ∧ n ≤ 0x2F then .deviceIntermediate
      else if 0x30 ≤ n ∧ n ≤ 0x3F then .deviceParameter
      else if 0x40 ≤ n ∧ n ≤ 0x7E then .controlString
      else .deviceEntry
    | .deviceParameter =>
      if 0x20 ≤ n ∧ n ≤ 0x2F then .deviceIntermediate
      else if 0x3C ≤ n ∧ n ≤ 0x7E then .controlString
      else .deviceParameter
    | .deviceIntermediate => if 0x30 ≤ n ∧ n ≤ 0x7E then .controlString else .deviceIntermediate
    | .controlString => if n = 0x9C then .ground else .controlString
    | .systemCommand => if n = 0x07 then .ground else .systemCommand

end ControlState

def isAsciiSpace (b : UInt8) : Bool := b ∈ [0x09, 0x0A, 0x0C, 0x0D, 0x20]

def isShown (b : UInt8) : Bool :=
  isAsciiSpace b || (0x20 ≤ b && b < 0x7F) || 0xC2 ≤ b

/-- How many bytes a character has behind the given first one. -/
def continuationCount (b : UInt8) : Nat :=
  if b < 0xC2 then 0 else if b < 0xE0 then 1 else if b < 0xF0 then 2 else 3

/-- The state between two bytes: the sequence that is not complete, whether bytes are being shown, and how
many of the current character are to come. -/
structure TerminalText where
  control : ControlState := .ground
  isShowing : Bool := false
  due : Nat := 0

namespace TerminalText

def step (t : TerminalText) (b : UInt8) : TerminalText × Bool :=
  if 0 < t.due then ({ t with due := t.due - 1 }, true)
  else
    let begins :=
      if t.isShowing || t.control = .ground then isShown b
      else t.control.isCommand && b < 0x20 && isAsciiSpace b
    if begins then
      if 0xC2 ≤ b then (⟨.ground, true, continuationCount b⟩, true)
      else ({ t with isShowing := true }, true)
    else (⟨t.control.next b, false, 0⟩, false)

def shown (t : TerminalText) : List UInt8 → List UInt8
  | [] => []
  | b :: bs =>
    let (next, isShown) := t.step b
    if isShown then b :: next.shown bs else next.shown bs

end TerminalText

def plainBytes (bytes : List UInt8) : List UInt8 := TerminalText.shown {} bytes

end ColorCube
