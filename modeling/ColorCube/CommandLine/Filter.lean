import ColorCube.CommandLine.Directive

/-!
# Log filters

A filter is a list of directives, separated by commas; of several about the same the last counts. An event
is let through by a directive for a span that it stands within, or else as the first of the directives that
are not bound to spans says, in the order of `Directive.precedes`. A span is in force in the same cases,
and also when a directive is bound to it, unless the filter lets nothing of the severity of spans through
anywhere.
-/

namespace ColorCube.CommandLine

structure Filter where
  directives : List Directive

/-- The spans in force around a place in the log, the outermost first, and the thresholds of the directives
that are bound to them. -/
structure Scope where
  spans : List Span := []
  thresholds : List Threshold := []

def Scope.admits (s : Scope) (severity : Severity) : Bool := s.thresholds.any (·.admits severity)

namespace Filter

def always (t : Threshold) : Filter := ⟨[{ threshold := t }]⟩

/-- Reads a filter. A text without any directive lets errors through. -/
def ofText? (text : String) : Option Filter :=
  match ((text.toList.splitOn ',').filter fun p => !p.isEmpty).mapM Directive.ofChars? with
  | none => none
  | some [] => some (always .error)
  | some ds => some ⟨ds⟩

def effective (f : Filter) : List Directive :=
  f.directives.foldr (fun d ds => if ds.any d.sameSubject then ds else d :: ds) []

/-- The most permissive of all thresholds. Before the value of a field is known, everything may have to be
let through. -/
def reach (f : Filter) : Threshold :=
  if f.directives.any fun d => d.field.any (·.value.isSome) then .trace
  else f.directives.foldl (fun t d => t.max d.threshold) .off

/-- The threshold of the first directive, among those not bound to spans, that is about something. -/
def unscoped (f : Filter) (concerns : Directive → Bool) : Threshold :=
  let ds := f.effective.filter fun d => d.isUnscoped && concerns d
  let first := ds.foldl (fun best d => if best.any fun b => !d.precedes b then best else some d) none
  (first.map (·.threshold)).getD .off

/-- The threshold for what stands within a span, if any directive is bound to it: the most permissive one
whose value the span has. -/
def scoped? (f : Filter) (span : Span) : Option Threshold :=
  match f.effective.filter fun d => d.isScoped && d.concernsSpan span with
  | [] => none
  | ds => some ((ds.filter (·.valueHolds span)).foldl (fun t d => t.max d.threshold) .off)

def enter (f : Filter) (scope : Scope) (span : Span) : Scope :=
  match f.scoped? span with
  | some t =>
    if f.reach.admits Span.severity then ⟨scope.spans ++ [span], scope.thresholds ++ [t]⟩ else scope
  | none =>
    if scope.admits Span.severity ||
        (f.unscoped (·.takesIn Span.component.target)).admits Span.severity then
      { scope with spans := scope.spans ++ [span] }
    else scope

def scope (f : Filter) (spans : List Span) : Scope := spans.foldl f.enter {}

def admits (f : Filter) (scope : Scope) (e : Event) : Bool :=
  let concerns := fun (d : Directive) =>
    d.takesIn e.component.target && d.field.all fun test => test.name ∈ e.fieldNames
  scope.admits e.severity || (f.unscoped concerns).admits e.severity

def isDebug (f : Filter) : Bool := f.effective.any (·.threshold = .debug)

end Filter

end ColorCube.CommandLine
