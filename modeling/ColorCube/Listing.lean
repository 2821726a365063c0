import ColorCube.Record
import ColorCube.Sequence

/-!
# Listings

What a text yields line by line: the colors of its records in their order, and a note for every line
that is not a record.
-/

namespace ColorCube

/-- A line that is not a record, by its number from 1 on, without the white space around it. -/
structure RejectedLine where
  number : Nat
  content : String
  reason : RecordError
  deriving DecidableEq, Repr

structure Listing where
  sequence : Sequence
  rejected : List RejectedLine

namespace Listing

def empty : Listing := ⟨#[], []⟩

/-- The note for the line with a given number, if it is not a record. -/
def rejection? (number : Nat) (line : List Char) : Except RecordError Color → Option RejectedLine
  | .ok _ => none
  | .error reason => some ⟨number, .ofList (trim line), reason⟩

/-- The listing of lines that are numbered from `first` on. -/
def ofLines (fullScale : Binary64) (lines : List (List Char)) (first : Nat) : Listing :=
  let read := lines.map fun line => (line, readRecord fullScale line)
  { sequence := (read.filterMap fun (_, r) => r.toOption).toArray
    rejected := (read.zipIdx first).filterMap fun ((line, r), n) => rejection? n line r }

end Listing

end ColorCube
