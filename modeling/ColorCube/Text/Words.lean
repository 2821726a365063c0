/-!
# Words and white space

White space is the Unicode property of that name. The words of a text are its longest runs without
white space.
-/

namespace ColorCube

/-- The 25 characters with the property White_Space. -/
def isSpace (c : Char) : Bool :=
  let n := c.toNat
  (9 ≤ n && n ≤ 13) || n == 0x20 || n == 0x85 || n == 0xA0 || n == 0x1680 ||
    (0x2000 ≤ n && n ≤ 0x200A) || n == 0x2028 || n == 0x2029 || n == 0x202F || n == 0x205F ||
    n == 0x3000

def words (s : List Char) : List (List Char) :=
  (s.splitOnP isSpace).filter fun w => !w.isEmpty

@[simp] theorem words_nil : words [] = [] := by simp [words]

theorem words_append_cons (s t : List Char) {c : Char} (h : isSpace c) :
    words (s ++ c :: t) = words s ++ words t := by
  simp [words, List.splitOnP_append_cons s t h]

theorem words_space_cons (t : List Char) {c : Char} (h : isSpace c) : words (c :: t) = words t := by
  simpa using words_append_cons [] t h

/-- The text without the white space at its two ends. -/
def trim (s : List Char) : List Char :=
  ((s.dropWhile isSpace).reverse.dropWhile isSpace).reverse

/-- Whether a text has another one within it. -/
def occursIn (part : List Char) : List Char → Bool
  | [] => part.isEmpty
  | c :: s => part.isPrefixOf (c :: s) || occursIn part s

end ColorCube
