import ColorCube.Listing
import ColorCube.Settings

/-!
# Events

The notes that a conversion makes on its way, each with its severity, its wording, and the fields that
stand behind the wording as `name=value`. An event comes from a component, which has a target: a name
that those who filter the log know it by.
-/

namespace ColorCube

def programName : String := "lut3d_convert_rs"

/-- A part of the program that makes notes. -/
inductive Component where
  | program
  | conversion
  | reading
  | cube
  | writing
  deriving DecidableEq, Repr

/-- The target of a component. A target that begins another one takes it in. -/
def Component.target : Component → String
  | .program => programName
  | .conversion => programName ++ "::lut_pipeline::conversions::text_to_brace"
  | .reading => programName ++ "::lut_pipeline::parse::text_reader"
  | .cube => programName ++ "::lut_pipeline::cuboid::cube"
  | .writing => programName ++ "::lut_pipeline::emit::brace_writer"

/-- The severity of an event, from the least to the most severe. -/
inductive Severity where
  | debug
  | info
  | warn
  deriving DecidableEq, Repr

def Severity.name : Severity → String
  | .debug => "DEBUG"
  | .info => "INFO"
  | .warn => "WARN"

/-- The counts of a finished conversion: entries read, lines rejected, records written. -/
structure Summary where
  records : Nat
  skipped : Nat
  emitted : Nat
  deriving DecidableEq, Repr

inductive Event where
  | lineRejected (line : RejectedLine)
  | listingRead (accepted rejected : Nat)
  | inputMissing (path : String) (cause : SystemError)
  | fileStarted (input : String) (output : Option String)
  | conversionStarted
  | surplusIgnored (surplus expected side : Nat)
  | cubeBuilt (side : Nat)
  | writingStarted (count : Nat) (order : Traversal)
  | conversionFinished (summary : Summary)
  | columnProbed (count : Nat)
  | linesRejected (count : Nat)
  deriving DecidableEq, Repr

namespace Event

def severity : Event → Severity
  | .lineRejected _ | .inputMissing .. | .surplusIgnored .. => .warn
  | .listingRead .. | .cubeBuilt _ | .writingStarted .. => .debug
  | .fileStarted .. | .conversionStarted | .conversionFinished _ | .columnProbed _
  | .linesRejected _ => .info

def component : Event → Component
  | .lineRejected _ | .listingRead .. => .reading
  | .surplusIgnored .. | .cubeBuilt _ => .cube
  | .writingStarted .. => .writing
  | .inputMissing .. | .fileStarted .. | .conversionStarted | .conversionFinished _ => .conversion
  | .columnProbed _ | .linesRejected _ => .program

def message : Event → String
  | .lineRejected line =>
    s!"Skipping invalid line {line.number}: '" ++ line.content ++ "' (" ++ line.reason.message ++ ")"
  | .listingRead accepted rejected => s!"Parsed {accepted} entries, skipped {rejected} lines"
  | .inputMissing path cause =>
    "File '" ++ path ++ "' could not be opened (" ++ cause.message ++ "), continuing with no entries"
  | .fileStarted .. => "Converting file"
  | .conversionStarted => "Starting LUT conversion"
  | .surplusIgnored surplus expected side =>
    s!"Ignoring {surplus} entries beyond the {expected} needed for a {side}^3 cube"
  | .cubeBuilt side => s!"Built {side}x{side}x{side} cube"
  | .writingStarted count order => s!"Writing {count} entries in " ++ order.name ++ " order"
  | .conversionFinished _ => "Conversion complete"
  | .columnProbed count => s!"Probed {count} entries"
  | .linesRejected count => s!"Skipped {count} malformed lines"

def fields : Event → List (String × String)
  | .fileStarted input none => [("input", input)]
  | .fileStarted input (some output) => [("input", input), ("output", output)]
  | .conversionFinished s =>
    [("records", s!"{s.records}"), ("skipped", s!"{s.skipped}"), ("emitted", s!"{s.emitted}")]
  | _ => []

/-- The names of the fields. The wording is a field as well. -/
def fieldNames (e : Event) : List String := "message" :: e.fields.map (·.1)

/-- The fields as they follow the wording, each after a blank. -/
def fieldText (e : Event) : String :=
  String.join (e.fields.map fun (name, value) => " " ++ name ++ "=" ++ value)

end Event

end ColorCube
