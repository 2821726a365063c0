import ColorCube.Job
import ColorCube.Text.Lines
import ColorCube.Text.Utf8

/-!
# Streams

A source delivers bytes and then ends or fails. A sink takes bytes, perhaps only so many of them, and can
be flushed in the end. Both say how they fail.
-/

namespace ColorCube

def newlineByte : UInt8 := 10

/-- Bytes to be read. With a fault, reading past the last of them fails where it would end. -/
structure Source where
  bytes : List UInt8
  fault : Option Fault := none

namespace Source

/-- The lines that can be read: what follows the last newline is a line only if the source ends well. -/
def lines (s : Source) : List (List UInt8) :=
  match s.fault with
  | none => ColorCube.lines newlineByte s.bytes
  | some _ => completeLines newlineByte s.bytes

end Source

/-- A place to write to. With a limit it takes that many more bytes and then fails. -/
structure Sink where
  /-- The bytes taken so far, the latest first. -/
  taken : List UInt8 := []
  limit : Option (Nat × Fault) := none
  flushFault : Option Fault := none

namespace Sink

def written (s : Sink) : List UInt8 := s.taken.reverse

/-- Takes the bytes, or as many as the limit allows. -/
def write (s : Sink) (bytes : List UInt8) : Sink × Option Fault :=
  match s.limit with
  | none => ({ s with taken := bytes.reverseAux s.taken }, none)
  | some (room, fault) =>
    if bytes.length ≤ room then
      ({ s with taken := bytes.reverseAux s.taken, limit := some (room - bytes.length, fault) }, none)
    else ({ s with taken := (bytes.take room).reverseAux s.taken, limit := some (0, fault) }, some fault)

def writeAll (s : Sink) : List (List UInt8) → Sink × Option Fault
  | [] => (s, none)
  | piece :: rest =>
    match s.write piece with
    | (s', none) => s'.writeAll rest
    | (s', some fault) => (s', some fault)

def lineBytes (line : List Char) : List UInt8 := encodeUtf8 line ++ [newlineByte]

/-- Writes lines, flushes, and answers how many lines there were. -/
def writeLines (ls : List (List Char)) : Job Sink Nat := fun s =>
  match s.writeAll (ls.map lineBytes) with
  | (s', some fault) => ⟨.error (.io fault), s', []⟩
  | (s', none) =>
    match s'.flushFault with
    | some fault => ⟨.error (.io fault), s', []⟩
    | none => ⟨.ok ls.length, s', []⟩

end Sink

end ColorCube
