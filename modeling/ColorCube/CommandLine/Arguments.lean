import ColorCube.CommandLine.Options

/-!
# Arguments

Arguments are taken from left to right. A value stands in the next argument or is joined to its option,
after an equals sign or, for a short option, directly. A value in an argument of its own is looked at only
when the next option, or the end, shows that it is complete; until then an unknown argument further
right is reported first.
-/

namespace ColorCube.CommandLine

/-- Reads a count: digits after an optional plus. Of a fault in the digits and a count that grows too
large, the one further left is reported. -/
def readCount (text : String) : Except String Nat :=
  let s := match text.toList with
    | '+' :: s => s
    | s => s
  let leading := s.takeWhile Char.isDigit
  if text.isEmpty then .error "cannot parse integer from empty string"
  else if countBound ≤ digitsValue leading then
    .error "number too large to fit in target type"
  else match natural? s with
    | some n => .ok n
    | none => .error "invalid digit found in string"

def readNumber (text : String) : Except String Binary64 :=
  if text.isEmpty then .error "cannot parse float from empty string"
  else match Literal.ofChars? text.toList with
    | some l => .ok l.value
    | none => .error "invalid float literal"

/-- The options that have been given, and the parameters among them in their order. -/
structure Given where
  input : Option String := none
  traversal : Option Traversal := none
  maxValue : Option Binary64 := none
  side : Option Nat := none
  output : Option String := none
  probe : Option Nat := none
  allowMissing : Bool := false
  verbose : Bool := false
  order : List Parameter := []

namespace Given

def set (g : Given) (p : Parameter) (value : String) : Except UsageError Given :=
  let g' := { g with order := g.order ++ [p] }
  let invalid := UsageError.valueInvalid value p
  if p ∈ g.order then .error (.repeated p.label)
  else match p with
    | .input => if value.isEmpty then .error (.valueMissing p) else .ok { g' with input := value }
    | .output => if value.isEmpty then .error (.valueMissing p) else .ok { g' with output := value }
    | .traversal =>
      match Traversal.ofName value with
      | .ok t => .ok { g' with traversal := t }
      | .error e => .error (invalid e.message)
    | .maxValue => ((readNumber value).map fun x => { g' with maxValue := x }).mapError invalid
    | .side => ((readCount value).map fun n => { g' with side := n }).mapError invalid
    | .probe => ((readCount value).map fun n => { g' with probe := n }).mapError invalid

def options (g : Given) : Except UsageError Options :=
  match g.order.filter fun p => p = .output ∨ p = .probe with
  | [earlier, later] => .error (.conflict earlier later)
  | _ =>
    match g.input, g.traversal with
    | some input, some traversal => .ok
      { input, traversal
        maxValue := g.maxValue.getD Settings.default.fullScale
        side := g.side.getD Settings.default.side
        output := g.output
        allowMissing := g.allowMissing
        probe := g.probe
        verbose := g.verbose }
    | _, _ => .error .missingRequired

end Given

/-- A parameter that was named last, with the next argument as its value if that has come. -/
structure Awaited where
  parameter : Parameter
  value : Option String

/-- The state between two arguments. After `--` no argument is an option any more. -/
structure Scan where
  given : Given := {}
  awaited : Option Awaited := none
  optionsEnded : Bool := false

/-- How a step ends: ready for the next argument, or with a request that needs no more of them. -/
inductive Step where
  | next (s : Scan)
  | done (r : Request)

namespace Scan

def settle (s : Scan) : Except UsageError Scan :=
  match s.awaited with
  | none => .ok s
  | some ⟨p, none⟩ => .error (.valueMissing p)
  | some ⟨p, some value⟩ =>
    (s.given.set p value).map fun g => { s with given := g, awaited := none }

/-- A parameter with the value that is joined to it, or with its value to come. -/
def parameter (s : Scan) (p : Parameter) (joined : Option String) : Except UsageError Scan := do
  let s ← s.settle
  match joined with
  | none => return { s with awaited := some ⟨p, none⟩ }
  | some value => return { s with given := ← s.given.set p value }

def switch (s : Scan) (w : Switch) : Except UsageError Step := do
  let s ← s.settle
  match w with
  | .help => return .done .help
  | .version => return .done .version
  | .allowMissing =>
    if s.given.allowMissing then throw (.repeated w.label)
    return .next { s with given := { s.given with allowMissing := true } }
  | .verbose =>
    if s.given.verbose then throw (.repeated w.label)
    return .next { s with given := { s.given with verbose := true } }

def long (s : Scan) (text : List Char) : Except UsageError Step :=
  let name := String.ofList (text.takeWhile (· ≠ '='))
  let joined := match text.dropWhile (· ≠ '=') with
    | [] => none
    | _ :: value => some (String.ofList value)
  match Name.ofLong? name, joined with
  | none, _ => .error (.unexpectedArgument ("--" ++ name))
  | some (.parameter p), joined => (s.parameter p joined).map .next
  | some (.switch w), none => s.switch w
  | some (.switch w), some value => .error (.valueUnneeded value w)

/-- The short options of an argument after one dash. What follows a parameter is its value. -/
def short (s : Scan) : List Char → Except UsageError Step
  | [] => .ok (.next s)
  | c :: rest =>
    match Name.ofShort? c, rest with
    | none, _ => .error (.unexpectedArgument (.ofList ['-', c]))
    | some (.parameter p), [] => (s.parameter p none).map .next
    | some (.parameter p), '=' :: value => (s.parameter p (some (.ofList value))).map .next
    | some (.parameter p), value => (s.parameter p (some (.ofList value))).map .next
    | some (.switch w), rest =>
      match s.switch w with
      | .ok (.next s') => s'.short rest
      | ended => ended

/-- An argument that is no option: a value, if one is awaited. -/
def plain (s : Scan) (argument : String) : Except UsageError Step :=
  match s.awaited with
  | some ⟨p, none⟩ => .ok (.next { s with awaited := some ⟨p, some argument⟩ })
  | _ => .error (.unexpectedArgument argument)

def argument (s : Scan) (argument : String) : Except UsageError Step :=
  if s.optionsEnded then .error (.unexpectedArgument argument)
  else match argument.toList with
    | ['-', '-'] => .ok (.next { s with optionsEnded := true })
    | '-' :: '-' :: text => s.long text
    | '-' :: c :: text => s.short (c :: text)
    | _ => s.plain argument

def arguments (s : Scan) : List String → Except UsageError Request
  | [] => do
    let s ← s.settle
    return .run (← s.given.options)
  | a :: rest =>
    match s.argument a with
    | .error e => .error e
    | .ok (.done r) => .ok r
    | .ok (.next s') => s'.arguments rest

end Scan

def request (arguments : List String) : Except UsageError Request := Scan.arguments {} arguments

end ColorCube.CommandLine
