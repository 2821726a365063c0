import ColorCube.Log.Event

/-!
# Traces

The log of a conversion. Work is done within spans, which nest; every event is kept together with the
spans that were open around it, and the end of a span leaves an entry of its own.
-/

namespace ColorCube

/-- A stretch of work. -/
inductive Span where
  | convert (order : Traversal)
  | convertFile
  | convertFileTo
  | probeFile (offset : Nat)
  | openInput
  | readListing
  | buildCube (side records : Nat)
  | createOutput
  | writeRecords
  deriving DecidableEq, Repr

namespace Span

/-- All spans are of one component and one severity. -/
def component : Component := .conversion

def severity : Severity := .info

def name : Span → String
  | .convert _ => "convert"
  | .convertFile => "convert_file"
  | .convertFileTo => "convert_file_to_path"
  | .probeFile _ => "probe_file"
  | .openInput => "open_input_file"
  | .readListing => "parse_lut"
  | .buildCube .. => "build_cube"
  | .createOutput => "create_output_file"
  | .writeRecords => "emit_lut"

def fields : Span → List (String × String)
  | .convert order => [("traversal", order.name)]
  | .probeFile offset => [("offset", toString offset)]
  | .buildCube side records => [("side", toString side), ("records", toString records)]
  | _ => []

/-- The name, and the fields in braces if there are any. -/
def label (span : Span) : String :=
  match span.fields with
  | [] => span.name
  | fields =>
    span.name ++ "\x7b" ++ " ".intercalate (fields.map fun (name, value) => name ++ "=" ++ value) ++ "\x7d"

end Span

/-- What an entry tells: an event, or that the innermost of its spans has ended. -/
inductive Occurrence where
  | event (e : Event)
  | spanClosed
  deriving DecidableEq, Repr

/-- The spans are those open at the time, the outermost first. -/
structure Trace.Entry where
  spans : List Span
  occurrence : Occurrence
  deriving DecidableEq, Repr

abbrev Trace := List Trace.Entry

namespace Trace

def ofEvents (es : List Event) : Trace := es.map fun e => ⟨[], .event e⟩

/-- The trace of work done within a span. -/
def within (span : Span) (t : Trace) : Trace :=
  (t.map fun e => { e with spans := span :: e.spans }) ++ [⟨[span], .spanClosed⟩]

def Entry.event? : Entry → Option Event
  | ⟨_, .event e⟩ => some e
  | ⟨_, .spanClosed⟩ => none

def events (t : Trace) : List Event := t.filterMap Entry.event?

@[simp] theorem events_nil : events [] = [] := rfl

@[simp] theorem events_append (s t : Trace) : events (s ++ t) = events s ++ events t :=
  List.filterMap_append

@[simp] theorem events_ofEvents (es : List Event) : events (ofEvents es) = es := by
  induction es with
  | nil => rfl
  | cons e es ih => simp_all [events, ofEvents, Entry.event?]

@[simp] theorem events_within (span : Span) (t : Trace) : events (within span t) = events t := by
  have h : (Entry.event? ∘ fun e => { e with spans := span :: e.spans }) = Entry.event? := by
    funext ⟨_, o⟩; cases o <;> rfl
  simp [events, within, List.filterMap_map, h, Entry.event?]

end Trace

end ColorCube
