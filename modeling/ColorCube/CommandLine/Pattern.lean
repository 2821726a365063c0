import ColorCube.Text.Letters
import ColorCube.Text.Words

/-!
# Patterns

A log filter may compare a field with a regular expression. No field of the spans of a run is a text, so
that a pattern is never matched; but one that is not well formed makes the filter unreadable. This module
tells well-formed patterns from others.

Patterns are for Unicode text unless a flag says otherwise, and no tables of Unicode are at hand: classes
that need them, comparisons without regard to case and word boundaries are for ASCII only. Without
Unicode, a pattern must not match a part of a character.
-/

namespace ColorCube.CommandLine.Pattern

/-- The flags that decide what is well formed: no regard to case, Unicode, and blanks that do not
count. -/
structure Mode where
  caseless : Bool := false
  unicode : Bool := true
  spaced : Bool := false

def depthLimit : Nat := 250

/-- The depth of a sequence of parts with given depths. A single part stands for itself. -/
def depth : List Nat → Nat
  | [] => 0
  | [d] => d
  | ds => 1 + ds.foldl max 0

def skipBlanks (inComment : Bool) : List Char → List Char
  | [] => []
  | c :: s =>
    if inComment then skipBlanks (c != '\n') s
    else if isSpace c then skipBlanks false s
    else if c = '#' then skipBlanks true s
    else c :: s

def Mode.skip (m : Mode) (s : List Char) : List Char := if m.spaced then skipBlanks false s else s

/-! ## Escapes -/

/-- What a backslash and the characters after it stand for. -/
inductive Escape where
  | character (code : Nat) (isByte : Bool)
  | shorthand (negated : Bool)
  | boundary
  | anchor

def hexDigit? (c : Char) : Option Nat :=
  if c.isDigit then some (c.toNat - '0'.toNat)
  else if 'a' ≤ c ∧ c ≤ 'f' then some (c.toNat - 'a'.toNat + 10)
  else if 'A' ≤ c ∧ c ≤ 'F' then some (c.toNat - 'A'.toNat + 10)
  else none

/-- The number that so many hexadecimal digits go on to spell, and the text behind them. -/
def hexNumber? (m : Mode) : (count n : Nat) → List Char → Option (Nat × List Char)
  | 0, n, s => some (n, s)
  | count + 1, n, s =>
    match m.skip s with
    | [] => none
    | c :: s => (hexDigit? c).bind fun d => hexNumber? m count (16 * n + d) s

def codeEscape? (m : Mode) (count : Nat) (s : List Char) : Option (Escape × List Char) :=
  (hexNumber? m count 0 s).bind fun (n, rest) =>
    if n.isValidChar then some (.character n (count = 2), rest) else none

def escape? (m : Mode) : List Char → Option (Escape × List Char)
  | [] => none
  | c :: s =>
    if c = 'x' then codeEscape? m 2 s
    else if c = 'u' then codeEscape? m 4 s
    else if c = 'U' then codeEscape? m 8 s
    else if c ∈ ['d', 's', 'w'] then some (.shorthand false, s)
    else if c ∈ ['D', 'S', 'W'] then some (.shorthand true, s)
    else if c ∈ ['b', 'B', '<', '>'] then some (.boundary, s)
    else if c ∈ ['A', 'z'] then some (.anchor, s)
    else match [('a', 7), ('f', 12), ('t', 9), ('n', 10), ('r', 13), ('v', 11)].lookup c with
      | some code => some (.character code false, s)
      | none =>
        if c.isAlphanum ∨ 0x80 ≤ c.toNat then none else some (.character c.toNat false, s)

/-- Whether a character may stand in a pattern. -/
def Mode.allowsCharacter (m : Mode) (code : Nat) (isByte : Bool) : Bool :=
  if m.unicode then !m.caseless else !isByte || code < 0x80

def Mode.allows (m : Mode) : Escape → Bool
  | .character code isByte => m.allowsCharacter code isByte
  | .shorthand negated => !m.unicode && !negated
  | .boundary => !m.unicode
  | .anchor => true

/-! ## Classes in brackets -/

inductive SetOperation where
  | intersection
  | difference
  | symmetricDifference

/-- Whether bytes past ASCII are in the set that an operation makes. They are all in a set or none. -/
def SetOperation.apply : SetOperation → Bool → Bool → Bool
  | .intersection, a, b => a && b
  | .difference, a, b => a && !b
  | .symmetricDifference, a, b => a != b

/-- A class that is being read: whether it is negated, an operation that awaits its second set, whether the
set since then holds bytes past ASCII, and the depths of its parts. -/
structure OpenClass where
  negated : Bool
  pending : Option (SetOperation × Bool × Nat)
  holdsHigh : Bool
  depths : List Nat

namespace OpenClass

def add (c : OpenClass) (holdsHigh : Bool) (d : Nat) : OpenClass :=
  { c with holdsHigh := c.holdsHigh || holdsHigh, depths := d :: c.depths }

/-- What has been read, with any operation carried out: whether it holds bytes past ASCII, and its
depth. -/
def value (c : OpenClass) : Bool × Nat :=
  match c.pending with
  | none => (c.holdsHigh, depth c.depths)
  | some (op, high, d) => (op.apply high c.holdsHigh, 1 + max d (depth c.depths))

def operate (c : OpenClass) (op : SetOperation) : OpenClass :=
  { c with pending := some (op, c.value), holdsHigh := false, depths := [] }

end OpenClass

def leadingDashes (m : Mode) : (fuel : Nat) → OpenClass → List Char → OpenClass × List Char
  | 0, c, s => (c, s)
  | fuel + 1, c, s =>
    match m.skip s with
    | '-' :: rest => leadingDashes m fuel (c.add false 0) rest
    | s => (c, s)

/-- Reads the beginning of a class, behind its bracket. A closing bracket that comes first is one of its
characters. -/
def openClass (m : Mode) (s : List Char) : OpenClass × List Char :=
  let (negated, s) := match m.skip s with
    | '^' :: rest => (true, rest)
    | s => (false, s)
  match leadingDashes m s.length ⟨negated, none, false, []⟩ s with
  | (c, ']' :: rest) => if c.depths.isEmpty then (c.add false 0, rest) else (c, ']' :: rest)
  | opened => opened

def asciiClassNames : List String :=
  ["alnum", "alpha", "ascii", "blank", "cntrl", "digit", "graph", "lower", "print", "punct", "space",
    "upper", "word", "xdigit"]

/-- Reads a class such as `[:alpha:]` or `[:^alpha:]` behind its first bracket. -/
def asciiClass? : List Char → Option (Bool × List Char)
  | ':' :: s =>
    let (negated, s) := match s with
      | '^' :: rest => (true, rest)
      | s => (false, s)
    match s.dropWhile (· ≠ ':') with
    | ':' :: ']' :: rest =>
      if String.ofList (s.takeWhile (· ≠ ':')) ∈ asciiClassNames then some (negated, rest) else none
    | _ => none
  | _ => none

def classItem? (m : Mode) : List Char → Option (Escape × List Char)
  | [] => none
  | '\\' :: s => escape? m s
  | c :: s => some (.character c.toNat false, s)

def Mode.allowsInClass (m : Mode) : Escape → Bool
  | .character code _ => m.unicode || code < 0x80
  | .shorthand negated => !m.unicode && !negated
  | .boundary | .anchor => false

def classRange? (m : Mode) (s : List Char) : Option (List Char) :=
  (classItem? m s).bind fun (first, rest) =>
    let single := fun rest => if m.allowsInClass first then some rest else none
    match m.skip rest with
    | [] => none
    | '-' :: after =>
      match m.skip after with
      | [] => none
      | ']' :: _ | '-' :: _ => single ('-' :: after)
      | last =>
        match first, classItem? m last with
        | .character a _, some (.character b _, rest) =>
          if a ≤ b ∧ (m.unicode ∨ b < 0x80) then some rest else none
        | _, _ => none
    | rest => single rest

/-- Reads on in a class, which stands in others, up to the end of the outermost: its depth, and the text
behind it. -/
def classRest? (m : Mode) :
    (fuel : Nat) → OpenClass → List OpenClass → List Char → Option (Nat × List Char)
  | 0, _, _, _ => none
  | fuel + 1, c, outer, s =>
    match m.skip s with
    | [] => none
    | ']' :: rest =>
      let (high, d) := c.value
      if if m.unicode then m.caseless else high != c.negated then none
      else match outer with
        | [] => some (1 + d, rest)
        | parent :: outer => classRest? m fuel (parent.add false (1 + d)) outer rest
    | '[' :: rest =>
      match asciiClass? rest with
      | some (negated, rest) => classRest? m fuel (c.add negated 0) outer rest
      | none =>
        let (inner, rest) := openClass m rest
        classRest? m fuel inner (c :: outer) rest
    | '&' :: '&' :: rest => classRest? m fuel (c.operate .intersection) outer rest
    | '-' :: '-' :: rest => classRest? m fuel (c.operate .difference) outer rest
    | '~' :: '~' :: rest => classRest? m fuel (c.operate .symmetricDifference) outer rest
    | s => (classRange? m s).bind fun rest => classRest? m fuel (c.add false 0) outer rest

/-! ## Groups -/

def Mode.set (m : Mode) (on : Bool) : Char → Mode
  | 'i' => { m with caseless := on }
  | 'u' => { m with unicode := on }
  | 'x' => { m with spaced := on }
  | _ => m

/-- Reads flags up to the colon or the parenthesis behind them: the mode that they lead to, whether it is a
colon, and the text behind it. Each flag, and the dash before those that are taken back, stands once. -/
def flags? (m : Mode) (seen : List Char) : List Char → Option (Mode × Bool × List Char)
  | [] => none
  | c :: s =>
    if c = ':' ∨ c = ')' then
      if seen.head? = some '-' ∨ (seen = [] ∧ c = ')') then none else some (m, c = ':', s)
    else if c ∈ seen then none
    else if c = '-' then flags? m (c :: seen) s
    else if c ∈ ['i', 'm', 's', 'U', 'u', 'R', 'x'] then
      flags? (m.set ('-' ∉ seen) c) (c :: seen) s
    else none

def isGroupName : List Char → Bool
  | [] => false
  | c :: s =>
    (c = '_' || isAlphabetic c) && s.all fun c => c ∈ ['_', '.', '[', ']'] || isAlphanumeric c

/-- A part of a pattern: its depth, and whether it can be repeated. -/
structure Part where
  depth : Nat
  repeatable : Bool := true

/-- The parts read so far, the latest first, and the depths of the alternatives before them. -/
structure Sequence where
  mode : Mode := {}
  parts : List Part := []
  alternatives : List Nat := []

namespace Sequence

def add (q : Sequence) (p : Part) : Sequence := { q with parts := p :: q.parts }

def closed (q : Sequence) : List Nat := Pattern.depth (q.parts.map (·.depth)) :: q.alternatives

def alternate (q : Sequence) : Sequence := { q with parts := [], alternatives := q.closed }

def depth (q : Sequence) : Nat := Pattern.depth q.closed

def repeat? (q : Sequence) : Option Sequence :=
  match q.parts with
  | ⟨d, true⟩ :: parts => some { q with parts := ⟨1 + d, true⟩ :: parts }
  | _ => none

end Sequence

inductive Opening where
  | group (mode : Mode) (name : Option (List Char)) (rest : List Char)
  | flags (mode : Mode) (rest : List Char)

def namedGroup? (m : Mode) (s : List Char) : Option Opening :=
  let name := s.takeWhile (· ≠ '>')
  match s.dropWhile (· ≠ '>') with
  | [] => none
  | _ :: rest => if isGroupName name then some (.group m (some name) rest) else none

def opening? (m : Mode) (s : List Char) : Option Opening :=
  match m.skip s with
  | '?' :: 'P' :: '<' :: s => namedGroup? m s
  | '?' :: '<' :: s => namedGroup? m s
  | '?' :: s =>
    (flags? m [] s).map fun (m, isGroup, rest) =>
      if isGroup then .group m none rest else .flags m rest
  | s => some (.group m none s)

/-- Reads on in a sequence that stands in the groups around it, whose names must not come again. -/
def restIsValid :
    (fuel : Nat) → Sequence → List Sequence → (names : List (List Char)) → List Char → Bool
  | 0, _, _, _, _ => false
  | fuel + 1, q, outer, names, s =>
    match q.mode.skip s with
    | [] => outer.isEmpty && q.depth ≤ depthLimit
    | '(' :: s =>
      match opening? q.mode s with
      | none => false
      | some (.flags mode rest) =>
        restIsValid fuel { q.add ⟨0, false⟩ with mode } outer names rest
      | some (.group mode none rest) => restIsValid fuel { mode } (q :: outer) names rest
      | some (.group mode (some name) rest) =>
        name ∉ names && restIsValid fuel { mode } (q :: outer) (name :: names) rest
    | ')' :: rest =>
      match outer with
      | [] => false
      | parent :: outer => restIsValid fuel (parent.add ⟨1 + q.depth, true⟩) outer names rest
    | '|' :: rest => restIsValid fuel q.alternate outer names rest
    | '[' :: rest =>
      let (c, rest) := openClass q.mode rest
      match classRest? q.mode rest.length c [] rest with
      | none => false
      | some (d, rest) => restIsValid fuel (q.add ⟨d, true⟩) outer names rest
    | '{' :: _ => false
    | '\\' :: s =>
      match escape? q.mode s with
      | none => false
      | some (e, rest) => q.mode.allows e && restIsValid fuel (q.add ⟨0, true⟩) outer names rest
    | '.' :: rest => q.mode.unicode && restIsValid fuel (q.add ⟨0, true⟩) outer names rest
    | c :: rest =>
      if c ∈ ['?', '*', '+'] then
        match q.repeat? with
        | none => false
        | some q =>
          match rest with
          | '?' :: rest => restIsValid fuel q outer names rest
          | rest => restIsValid fuel q outer names rest
      else
        (c ∈ ['^', '$'] || q.mode.allowsCharacter c.toNat false) &&
          restIsValid fuel (q.add ⟨0, true⟩) outer names rest

/-- Whether a text without closing braces is a well-formed pattern. Counted repetitions and characters in
braces are none, as their closing brace is missing. -/
def isValid (s : List Char) : Bool := restIsValid (s.length + 1) {} [] [] s

end ColorCube.CommandLine.Pattern
