import ColorCube.Color

/-!
# Sequences of colors

The colors of a table in the order of their lines, before they are arranged as a cube.
-/

namespace ColorCube

abbrev Sequence := Array Color

namespace Sequence

/-- Equality entry by entry, as numbers. -/
def numericallyEqual (s t : Sequence) : Bool := s.isEqv t Color.numericallyEqual

/-- The indices from `offset` on, in steps of `stride`, that are below `size`. A stride of zero counts
as one. -/
def stridedIndices (size offset stride : Nat) : List Nat :=
  let step := max stride 1
  (List.range ((size - offset + step - 1) / step)).map fun n => offset + n * step

/-- The entries at these indices, each with its index. -/
def strided (s : Sequence) (offset stride : Nat) : List (Nat × Color) :=
  (stridedIndices s.size offset stride).filterMap fun n => s[n]?.map (n, ·)

end Sequence

end ColorCube
