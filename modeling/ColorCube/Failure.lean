import ColorCube.Number.Shortest

/-!
# Failures

Everything that can end a conversion, with its wording.
-/

namespace ColorCube

/-- Why the system refuses a file: for what stands at its path, or for a reason of the system's own. -/
inductive SystemError where
  | notFound
  | alreadyExists
  | notDirectory
  | isDirectory
  | nameTooLong
  | nulInPath
  | refused (reason : String)
  deriving DecidableEq, Repr

def SystemError.message : SystemError → String
  | .notFound => "No such file or directory (os error 2)"
  | .alreadyExists => "File exists (os error 17)"
  | .notDirectory => "Not a directory (os error 20)"
  | .isDirectory => "Is a directory (os error 21)"
  | .nameTooLong => "File name too long (os error 36)"
  | .nulInPath => "file name contained an unexpected NUL byte"
  | .refused reason => reason

/-- Why bytes stop moving: a file fails, an output file cannot be created, or a stream gives a reason
of its own. -/
inductive Fault where
  | system (cause : SystemError)
  | creation (path : String) (cause : SystemError)
  | stream (reason : String)
  deriving DecidableEq, Repr

def Fault.message : Fault → String
  | .system cause => cause.message
  | .creation path cause => path ++ ": " ++ cause.message
  | .stream reason => reason

inductive Failure where
  | unreadableInput (path : String) (cause : SystemError)
  | insufficientData (expected actual : Nat)
  | unknownTraversal (text : String)
  | invalidSide (side : Nat)
  | invalidFullScale (value : Binary64)
  | invalidProbeOffset (offset limit : Nat)
  | io (fault : Fault)
  deriving DecidableEq

def Failure.message : Failure → String
  | .unreadableInput path cause => "Failed to read input file: " ++ path ++ ": " ++ cause.message
  | .insufficientData expected actual =>
    s!"Insufficient LUT data: expected {expected} entries, found {actual}"
  | .unknownTraversal text =>
    "Unknown traversal order: '" ++ text ++ "' (expected 'rgb' or 'bgr')"
  | .invalidSide side => s!"Invalid cube side length: {side}"
  | .invalidFullScale value => "Invalid maximum input value: " ++ .ofList value.toShortest
  | .invalidProbeOffset offset limit => s!"Invalid probe offset {offset}: must be below {limit}"
  | .io fault => "IO error: " ++ fault.message

end ColorCube
