import ColorCube.CommandLine.Arguments
import ColorCube.CommandLine.Diagnostics

/-!
# Runs of the command line

A run turns arguments and files into an exit status, the bytes of standard output, the lines of standard
error, and the files afterwards.
-/

namespace ColorCube.CommandLine

def versionText : String := programName ++ " 0.1.0\n"

def helpText : String :=
  "Convert integer values in a 3D LUT file to normalized C initializer records\n" ++
  "\n" ++
  "Usage: " ++ programName ++ " [OPTIONS] --input <INPUT> --traversal <TRAVERSAL>\n" ++
  "\n" ++
  "Options:\n" ++
  "  -f, --input <INPUT>          3D LUT file, one `r g b` integer triple per line\n" ++
  "  -t, --traversal <TRAVERSAL>  Traversal order: rgb or bgr (case-insensitive)\n" ++
  "      --max-value <MAX_VALUE>  Raw value that maps to 1.0 [default: 4095]\n" ++
  "      --side <SIDE>            Grid points per cube axis [default: 17]\n" ++
  "  -o, --output <OUTPUT>        Write records to this file instead of stdout\n" ++
  "      --allow-missing          Treat an unopenable input as an empty LUT instead of failing " ++
    "immediately\n" ++
  "      --probe <OFFSET>         Print the entries at OFFSET + n * side^2 with their indices " ++
    "instead of converting\n" ++
  "  -v, --verbose                Verbose output\n" ++
  "  -h, --help                   Print help\n" ++
  "  -V, --version                Print version\n"

/-- What a run works on: the files and standard output. -/
structure Workspace where
  store : Store
  output : Sink

namespace Workspace

def onStore {α : Type} (x : Job Store α) : Job Workspace α := fun w =>
  let done := x w.store
  { done with state := { w with store := done.state } }

def onOutput {α : Type} (x : Job Sink α) : Job Workspace α := fun w =>
  let done := x w.output
  { done with state := { w with output := done.state } }

end Workspace

/-- Notes how many lines were rejected, if any were. -/
def noteRejected (s : Summary) : Job Workspace Unit :=
  if 0 < s.skipped then Job.log (.linesRejected s.skipped) else return

/-- Probes, or converts to the output file, or converts to standard output. -/
def perform (o : Options) : Job Workspace Unit := do
  let converter : Converter := { settings := o.settings }
  let w ← Job.get
  match o.probe, o.output with
  | some offset, _ =>
    let count ← Workspace.onOutput (converter.probeFile w.store o.input offset)
    Job.log (.columnProbed count)
  | none, some output =>
    let summary ← Workspace.onStore (converter.convertFileTo o.input output)
    noteRejected summary
  | none, none =>
    let summary ← Workspace.onOutput (converter.convertFile w.store o.input)
    noteRejected summary

/-- What the user asked for, as the report of a failure names it. -/
def attempt (o : Options) : String :=
  (if o.probe.isSome then "Failed to probe " else "Failed to convert ") ++ o.input

/-- What is there after a run. -/
structure Exit where
  status : Nat
  output : List UInt8
  errorLines : List String
  store : Store

/-- Runs the command line with the text that the environment gives for a log filter, if any. -/
def run (filterText : Option String) (arguments : List String) (store : Store) : Exit :=
  match request arguments with
  | .error e => ⟨2, [], messageLines e.report, store⟩
  | .ok .help => ⟨0, encodeUtf8 helpText.toList, [], store⟩
  | .ok .version => ⟨0, encodeUtf8 versionText.toList, [], store⟩
  | .ok (.run o) =>
    let outcome := perform o ⟨store, {}⟩
    let logLines :=
      (outcome.trace.filterMap (logLine? (.of filterText o.verbose))).flatMap messageLines
    let written := outcome.state.output.written
    match outcome.result with
    | .ok () => ⟨0, written, logLines, outcome.state.store⟩
    | .error e => ⟨1, written, logLines ++ failureLines (attempt o) e, outcome.state.store⟩

end ColorCube.CommandLine
