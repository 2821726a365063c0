import ColorCube.Failure

/-!
# Settings

What a conversion can be told. Settings are put together from choices: the last choice for a setting
wins, and a setting without one has its default.
-/

namespace ColorCube

/-- The order in which the entries of a cube are written: `rgb` as they stand, `bgr` with the first and
the last axis exchanged. -/
inductive Traversal where
  | rgb
  | bgr
  deriving DecidableEq, Repr

namespace Traversal

def name : Traversal → String
  | .rgb => "rgb"
  | .bgr => "bgr"

/-- Reads a name in any mixture of cases. -/
def ofName (s : String) : Except Failure Traversal :=
  let lower := s.toList.map Char.toLower
  if lower = ['r', 'g', 'b'] then .ok .rgb
  else if lower = ['b', 'g', 'r'] then .ok .bgr
  else .error (.unknownTraversal s)

end Traversal

/-- What to do about an input file that cannot be opened: give up, or go on as if it were empty. -/
inductive MissingInput where
  | fail
  | empty
  deriving DecidableEq, Repr

/-- The settings of a conversion. A raw value of `fullScale` becomes 1, and the cube has `side` entries
along each axis. -/
structure Settings where
  fullScale : Binary64
  side : Nat
  order : Traversal
  missingInput : MissingInput
  deriving DecidableEq

namespace Settings

def default : Settings := ⟨.ofNat 4095, 17, .rgb, .fail⟩

/-- Refuses a side of zero first, and then a full scale that is not finite and above zero. -/
def check (s : Settings) : Except Failure Unit :=
  if s.side = 0 then .error (.invalidSide s.side)
  else if s.fullScale.isPositiveFinite then .ok ()
  else .error (.invalidFullScale s.fullScale)

structure Choices where
  fullScale : Option Binary64 := none
  side : Option Nat := none
  order : Option Traversal := none
  missingInput : Option MissingInput := none

namespace Choices

/-- Both choices; where both choose, the later one. -/
def followedBy (earlier later : Choices) : Choices where
  fullScale := later.fullScale.or earlier.fullScale
  side := later.side.or earlier.side
  order := later.order.or earlier.order
  missingInput := later.missingInput.or earlier.missingInput

def build (c : Choices) : Settings where
  fullScale := c.fullScale.getD Settings.default.fullScale
  side := c.side.getD Settings.default.side
  order := c.order.getD Settings.default.order
  missingInput := c.missingInput.getD Settings.default.missingInput

end Choices

end Settings

end ColorCube
