import ColorCube.CommandLine.Pattern
import ColorCube.Log.Trace
import ColorCube.Number.Literal
import ColorCube.Text.Utf8

/-!
# Directives

A directive of a log filter names what it is about and how much of that is let through: a target, a span in
brackets with perhaps a field in braces, and a threshold behind an equals sign, as in
`target[span{field=value}]=info`. Each part may be missing. A single word is a threshold if it can be read
as one and a target otherwise, and without a threshold everything is let through.
-/

namespace ColorCube.CommandLine

/-- The least severity that is let through, if any is. -/
inductive Threshold where
  | off
  | error
  | warn
  | info
  | debug
  | trace
  deriving DecidableEq, Repr

namespace Threshold

def rank : Threshold → Nat
  | .off => 0
  | .error => 1
  | .warn => 2
  | .info => 3
  | .debug => 4
  | .trace => 5

def max (s t : Threshold) : Threshold := if s.rank < t.rank then t else s

/-- Reads a name in any mixture of cases, or a number from 0 to 5. -/
def ofChars? (s : List Char) : Option Threshold :=
  let number := match s with
    | '+' :: s => natural? s
    | s => natural? s
  match number with
  | some 0 => some .off
  | some 1 => some .error
  | some 2 => some .warn
  | some 3 => some .info
  | some 4 => some .debug
  | some 5 => some .trace
  | _ =>
    match String.ofList (s.map Char.toLower) with
    | "" | "error" => some .error
    | "off" => some .off
    | "warn" => some .warn
    | "info" => some .info
    | "debug" => some .debug
    | "trace" => some .trace
    | _ => none

def admits (t : Threshold) : Severity → Bool
  | .warn => Threshold.warn.rank ≤ t.rank
  | .info => Threshold.info.rank ≤ t.rank
  | .debug => Threshold.debug.rank ≤ t.rank

end Threshold

inductive FieldValue where
  | truth (b : Bool)
  | count (n : Nat)
  | negative (n : Nat)
  | number (x : Binary64)
  | pattern (s : List Char)
  deriving DecidableEq

namespace FieldValue

/-- Reads a value as the first of the five kinds that it has the form of, a count or a negative number
only if it fits into 64 bits. What is none of them has to be a pattern. -/
def ofChars? (s : List Char) : Option FieldValue :=
  if s = "true".toList then some (.truth true)
  else if s = "false".toList then some (.truth false)
  else match splitSign s, natural? (splitSign s).2 with
    | (false, _), some n =>
      if n < 2 ^ 64 then some (.count n) else some (.number (.ofDecimal false n 0))
    | (true, _), some n =>
      if n ≤ 2 ^ 63 then some (.negative n) else some (.number (.ofDecimal true n 0))
    | _, none =>
      match Literal.ofChars? s with
      | some l => some (.number l.value)
      | none => if Pattern.isValid s then some (.pattern s) else none

/-- Whether two values cannot be told apart: numbers by what they are, patterns by their spelling. -/
def same : FieldValue → FieldValue → Bool
  | .number x, .number y => x.numericallyEqual y || (x = .nan && y = .nan)
  | v, w => v = w

/-- Whether a field of a span has the value. Only counts have: the fields are counts, and a number or a
pattern is for fields of other kinds. -/
def holds (v : FieldValue) (text : String) : Bool :=
  match v with
  | .count n => text = toString n
  | _ => false

end FieldValue

structure FieldTest where
  name : String
  value : Option FieldValue

namespace FieldTest

/-- Reads a name, and a value behind an equals sign; what follows a second one does not count. -/
def ofChars? (s : List Char) : Option FieldTest :=
  match s.splitOn '=' with
  | [] => none
  | [name] => some ⟨.ofList name, none⟩
  | name :: value :: _ => (FieldValue.ofChars? value).map fun v => ⟨.ofList name, some v⟩

def same (a b : FieldTest) : Bool :=
  a.name = b.name && match a.value, b.value with
    | some v, some w => v.same w
    | none, none => true
    | _, _ => false

end FieldTest

structure Directive where
  target : Option String := none
  span : Option String := none
  field : Option FieldTest := none
  threshold : Threshold := .trace

namespace Directive

/-- Whether a directive may begin with the character, if not with a bracket. -/
def mayBegin (c : Char) : Bool := c ∈ ['-', ':', '_'] || isAlphanumeric c

/-- The text behind so many bytes, unless they end within a character. -/
def dropBytes? : Nat → List Char → Option (List Char)
  | 0, s => some s
  | _ + 1, [] => some []
  | n + 1, c :: s => if n < c.utf8Size - 1 then none else dropBytes? (n + 1 - c.utf8Size) s

/-- A text with blanks around it, seen without them: pieces are found in what is between the blanks, and then
cut out of the whole by their distance, in bytes, from its beginning. So blanks in front move every piece
towards the front. -/
structure Clipping where
  whole : List Char

namespace Clipping

def sizeOf (s : List Char) : Nat := s.foldl (fun n c => n + c.utf8Size) 0

def piece? (c : Clipping) (start stop : Nat) : Option (List Char) :=
  (dropBytes? start c.whole).bind fun rest =>
    (dropBytes? (stop - start) rest).map fun after => rest.take (rest.length - after.length)

def rest? (c : Clipping) (start : Nat) : Option (List Char) := dropBytes? start c.whole

end Clipping

def threshold? (c : Clipping) (start : Nat) : Option Threshold :=
  match c.rest? start with
  | some [] => some .trace
  | some s => Threshold.ofChars? s
  | none => none

/-- Reads what stands behind the brackets: nothing, or a threshold. -/
def ending? (c : Clipping) (d : Directive) (start : Nat) : List Char → Option Directive
  | [] => some d
  | '=' :: _ => (threshold? c (start + 1)).map fun t => { d with threshold := t }
  | _ => none

def fieldPart? (c : Clipping) (d : Directive) (start : Nat) (s : List Char) : Option Directive :=
  let stop := start + Clipping.sizeOf (s.takeWhile (· ≠ '\x7d'))
  match s.dropWhile (· ≠ '\x7d'), c.piece? start stop with
  | _ :: ']' :: rest, some piece =>
    if piece = [] then none
    else (FieldTest.ofChars? piece).bind fun f => ending? c { d with field := some f } (stop + 2) rest
  | _, _ => none

def spanPart? (c : Clipping) (d : Directive) (start : Nat) (s : List Char) : Option Directive :=
  let isName := fun ch => ch ≠ ']' ∧ ch ≠ '\x7b'
  let stop := start + Clipping.sizeOf (s.takeWhile isName)
  match s.dropWhile isName, c.piece? start stop with
  | ']' :: rest, some piece => ending? c { d with span := some (.ofList piece) } (stop + 1) rest
  | '\x7b' :: rest, some piece =>
    fieldPart? c { d with span := if piece = [] then none else some (.ofList piece) } (stop + 1) rest
  | _, _ => none

def ofChars? (text : List Char) : Option Directive :=
  let c : Clipping := ⟨text⟩
  match trim text with
  | [] => none
  | '[' :: s => spanPart? c {} 1 s
  | first :: s =>
    let isName := fun ch => ch ≠ '=' ∧ ch ≠ '['
    let name := (first :: s).takeWhile isName
    let stop := Clipping.sizeOf name
    if !mayBegin first then none
    else match (first :: s).dropWhile isName, c.piece? 0 stop with
      | [], _ =>
        match Threshold.ofChars? text with
        | some t => some { threshold := t }
        | none => some { target := some (.ofList text) }
      | '=' :: _, some target =>
        (threshold? c (stop + 1)).map fun t => { target := some (.ofList target), threshold := t }
      | _ :: rest, some target => spanPart? c { target := some (.ofList target) } (stop + 1) rest
      | _, none => none

def sameSubject (a b : Directive) : Bool :=
  a.target = b.target && a.span = b.span && match a.field, b.field with
    | some f, some g => f.same g
    | none, none => true
    | _, _ => false

def takesIn (d : Directive) (target : String) : Bool := d.target.all (·.isPrefixOf target)

def isScoped (d : Directive) : Bool := d.span.isSome || d.field.isSome

def isUnscoped (d : Directive) : Bool := d.span.isNone && d.field.all (·.value.isNone)

/-- Whether the directive is about what stands within the span. -/
def concernsSpan (d : Directive) (span : Span) : Bool :=
  d.takesIn Span.component.target && d.span.all (· = span.name) &&
    d.field.all fun f => span.fields.any (·.1 = f.name)

def valueHolds (d : Directive) (span : Span) : Bool :=
  match d.field with
  | some ⟨name, some v⟩ => (span.fields.lookup name).any v.holds
  | _ => true

/-- Whether the directive goes before another one that is about the same thing as well: the one with the
longer target does, then the one with a field, then the one whose field comes later in order. -/
def precedes (a b : Directive) : Bool :=
  let size := fun (d : Directive) => (d.target.map (·.utf8ByteSize + 1)).getD 0
  let name := fun (d : Directive) => (d.field.map (·.name)).getD ""
  size b < size a || (size a = size b &&
    (b.field.isNone && a.field.isSome || b.field.isNone = a.field.isNone && name b < name a))

end Directive

end ColorCube.CommandLine
