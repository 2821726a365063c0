import ColorCube.CommandLine.Filter
import ColorCube.Text.Lines

/-!
# Diagnostics

What a run tells on its error stream: the entries of its log that the filter lets through, one a line,
and then the failure with its causes, if it failed.
-/

namespace ColorCube.CommandLine

structure Verbosity where
  filter : Filter
  showsSpanEnds : Bool

namespace Verbosity

/-- A filter that can be read wins over the switch for verbose output. The ends of spans are shown when
the filter in use, or the text given for one, speaks of debugging. -/
def of (filterText : Option String) (verbose : Bool) : Verbosity :=
  let filter := (filterText.bind Filter.ofText?).getD (.always (if verbose then .info else .warn))
  { filter
    showsSpanEnds := filter.isDebug || occursIn "debug".toList (filterText.getD "").toList }

end Verbosity

/-- The character, or a spelling of it when a terminal would obey it. -/
def escapeControl (c : Char) : String :=
  match c.toNat with
  | 0x07 => "\\x07"
  | 0x08 => "\\x08"
  | 0x0C => "\\x0c"
  | 0x1B => "\\x1b"
  | 0x7F => "\\x7f"
  | n =>
    if 0x80 ≤ n ∧ n ≤ 0x9F then "\\u\x7b" ++ .ofList (Nat.toDigits 16 n) ++ "\x7d" else c.toString

def escapeControls (s : String) : String := String.join (s.toList.map escapeControl)

def spanText (spans : List Span) : String :=
  if spans = [] then "" else ":".intercalate (spans.map Span.label) ++ ": "

def logLine? (v : Verbosity) : Trace.Entry → Option String
  | ⟨spans, .event e⟩ =>
    let scope := v.filter.scope spans
    if v.filter.admits scope e then
      some (e.severity.name ++ " " ++ spanText scope.spans ++ escapeControls e.message ++ e.fieldText)
    else none
  | ⟨spans, .spanClosed⟩ =>
    let scope := v.filter.scope spans
    if v.showsSpanEnds ∧ scope.spans ≠ [] ∧ scope.spans.getLast? = spans.getLast? then
      some (Span.severity.name ++ " " ++ spanText scope.spans ++ "close")
    else none

/-- The failure itself and what stands behind it. -/
def causes : Failure → List String
  | .io fault => [(Failure.io fault).message, fault.message]
  | e => [e.message]

/-- The lines of a cause, behind its number when there are several. -/
def causeLines (numbered : Bool) (cause : String) (number : Nat) : List String :=
  match messageLines cause with
  | [] => []
  | first :: rest =>
    if numbered then ("    " ++ toString number ++ ": " ++ first) :: rest.map ("       " ++ ·)
    else ("    " ++ first) :: rest.map ("    " ++ ·)

def failureLines (attempt : String) (e : Failure) : List String :=
  let cs := causes e
  messageLines ("Error: " ++ attempt) ++ ["", "Caused by:"] ++
    (cs.zipIdx.flatMap fun (c, n) => causeLines (1 < cs.length) c n)

end ColorCube.CommandLine
