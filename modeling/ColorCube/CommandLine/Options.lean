import ColorCube.Converter
import ColorCube.Text.Terminal

/-!
# Options

The options of the command line and what can be wrong with their use. An option has a long name and
perhaps a short one; some take a value and some are switches.
-/

namespace ColorCube.CommandLine

/-- An option that takes a value. -/
inductive Parameter where
  | input
  | traversal
  | maxValue
  | side
  | output
  | probe
  deriving DecidableEq, Repr

/-- An option that does not. -/
inductive Switch where
  | allowMissing
  | verbose
  | help
  | version
  deriving DecidableEq, Repr

inductive Name where
  | parameter (p : Parameter)
  | switch (s : Switch)
  deriving DecidableEq, Repr

/-- How messages name a parameter. -/
def Parameter.label : Parameter → String
  | .input => "--input <INPUT>"
  | .traversal => "--traversal <TRAVERSAL>"
  | .maxValue => "--max-value <MAX_VALUE>"
  | .side => "--side <SIDE>"
  | .output => "--output <OUTPUT>"
  | .probe => "--probe <OFFSET>"

def Switch.label : Switch → String
  | .allowMissing => "--allow-missing"
  | .verbose => "--verbose"
  | .help => "--help"
  | .version => "--version"

namespace Name

def ofLong? : String → Option Name
  | "input" => some (.parameter .input)
  | "traversal" => some (.parameter .traversal)
  | "max-value" => some (.parameter .maxValue)
  | "side" => some (.parameter .side)
  | "output" => some (.parameter .output)
  | "probe" => some (.parameter .probe)
  | "allow-missing" => some (.switch .allowMissing)
  | "verbose" => some (.switch .verbose)
  | "help" => some (.switch .help)
  | "version" => some (.switch .version)
  | _ => none

def ofShort? : Char → Option Name
  | 'f' => some (.parameter .input)
  | 't' => some (.parameter .traversal)
  | 'o' => some (.parameter .output)
  | 'v' => some (.switch .verbose)
  | 'h' => some (.switch .help)
  | 'V' => some (.switch .version)
  | _ => none

end Name

inductive UsageError where
  | missingRequired
  | unexpectedArgument (argument : String)
  | valueMissing (p : Parameter)
  | valueUnneeded (value : String) (s : Switch)
  | valueInvalid (value : String) (p : Parameter) (reason : String)
  | repeated (label : String)
  | conflict (earlier later : Parameter)
  deriving DecidableEq, Repr

/-- A text with a terminal style put on before it and taken off behind it. -/
def styled (style text : String) : String := "\x1b[" ++ style ++ "m" ++ text ++ "\x1b[0m"

/-- Something the user typed that is not right. -/
def styledInput (text : String) : String := "'" ++ styled "33" text ++ "'"

/-- Something that could be typed. -/
def styledLabel (text : String) : String := "'" ++ styled "1" text ++ "'"

namespace UsageError

/-- What is wrong, as it is said on a terminal with styles. -/
def styledMessage : UsageError → String
  | .missingRequired => "the following required arguments were not provided:"
  | .unexpectedArgument argument => "unexpected argument " ++ styledInput argument ++ " found"
  | .valueMissing p => "a value is required for " ++ styledLabel p.label ++ " but none was supplied"
  | .valueUnneeded value s =>
    "unexpected value " ++ styledInput value ++ " for " ++ styledLabel s.label ++
      " found; no more were expected"
  | .valueInvalid value p reason =>
    "invalid value " ++ styledInput value ++ " for " ++ styledLabel p.label ++ ": " ++ reason
  | .repeated label => "the argument " ++ styledLabel label ++ " cannot be used multiple times"
  | .conflict earlier later =>
    "the argument " ++ styledLabel earlier.label ++ " cannot be used with " ++ styledLabel later.label

/-- The report of an error, without styles and whatever else in it would move a terminal. -/
def report (e : UsageError) : String :=
  let text := styled "1;31" "error:" ++ " " ++ e.styledMessage ++
    "\n\nFor more information, try " ++ styledLabel "--help" ++ "."
  .ofList (decodeUtf8 (plainBytes (encodeUtf8 text.toList)))

end UsageError

/-- What a run was told. It either probes or may have an output file. -/
structure Options where
  input : String
  traversal : Traversal
  maxValue : Binary64
  side : Nat
  output : Option String
  allowMissing : Bool
  probe : Option Nat
  verbose : Bool

/-- What a command line asks for. -/
inductive Request where
  | help
  | version
  | run (o : Options)

def Options.settings (o : Options) : Settings where
  fullScale := o.maxValue
  side := o.side
  order := o.traversal
  missingInput := if o.allowMissing then .empty else .fail

end ColorCube.CommandLine
