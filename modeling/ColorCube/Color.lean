import ColorCube.Number.Fixed

/-!
# Colors

A color of a lookup table and its record: one element of a brace-enclosed initializer list, indented by
a tab and followed by a comma, with six decimal places per channel.
-/

namespace ColorCube

structure Color where
  red : Binary64
  green : Binary64
  blue : Binary64
  deriving DecidableEq

namespace Color

/-- The record of a color, on one line. -/
def render (c : Color) : List Char :=
  "\t\x7b .red = ".toList ++ c.red.toFixed ++ ", .green = ".toList ++ c.green.toFixed ++
    ", .blue = ".toList ++ c.blue.toFixed ++ " \x7d,".toList

/-- Equality channel by channel, as numbers. -/
def numericallyEqual (a b : Color) : Bool :=
  a.red.numericallyEqual b.red && a.green.numericallyEqual b.green &&
    a.blue.numericallyEqual b.blue

end Color

end ColorCube
