import ColorCube.Color
import ColorCube.Number.Literal
import ColorCube.Text.Words

/-!
# Input records

An input line is a record if it has exactly three words and each is a literal with a finite value. The
channels of its color are these values over full scale. A line is rejected for its number of words
first, whatever the words are, and then for the first word from the left that is at fault.
-/

namespace ColorCube

/-- Why a line is not a record. -/
inductive RecordError where
  | wordCount (found : Nat)
  | notNumeric (word : String)
  | notFinite (word : String)
  deriving DecidableEq, Repr

def RecordError.message : RecordError → String
  | .wordCount found => s!"expected 3 values, found {found}"
  | .notNumeric word => "value '" ++ word ++ "' is not numeric"
  | .notFinite word => "value '" ++ word ++ "' is not finite"

/-- The finite number that a word spells. -/
def readChannel (word : List Char) : Except RecordError Binary64 :=
  match Literal.ofChars? word with
  | none => .error (.notNumeric (.ofList word))
  | some l => if l.value.isFinite then .ok l.value else .error (.notFinite (.ofList word))

def readRecord (fullScale : Binary64) (line : List Char) : Except RecordError Color :=
  match words line with
  | [r, g, b] =>
    match readChannel r, readChannel g, readChannel b with
    | .ok red, .ok green, .ok blue => .ok ⟨red / fullScale, green / fullScale, blue / fullScale⟩
    | .error e, _, _ => .error e
    | .ok _, .error e, _ => .error e
    | .ok _, .ok _, .error e => .error e
  | ws => .error (.wordCount ws.length)

end ColorCube
