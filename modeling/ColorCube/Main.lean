import ColorCube.CommandLine.Run

/-!
# The program

Looks up the files that the arguments name, runs the command line on them, and carries out what it
answers.
-/

namespace ColorCube

/-- What stands along a path on disk, name by name, up to the first that is missing. -/
def observe (store : Store) (path : String) : IO Store := do
  match store.route path with
  | .error _ => return store
  | .ok route =>
    let directory ← IO.currentDir
    let mut seen := store
    for depth in List.range' 1 route.names.length do
      let names := route.names.take depth
      let file := directory / "/".intercalate (if route.start.isEmpty then "" :: names else names)
      match seen.follow route.start names with
      | .error _ => return seen
      | .ok l =>
        if ← file.isDir then
          seen := seen.put l .directory
        else if ← file.pathExists then
          let bytes ← if depth = route.names.length then IO.FS.readBinFile file else pure .empty
          return seen.put l (.file bytes.toList)
        else
          return seen
    return seen

/-- The files that the arguments name, as they are before the run. -/
def snapshot (arguments : List String) : IO Store := do
  let names := (← IO.currentDir).components.filter fun name => !name.isEmpty
  let parents := (List.range' 1 names.length).map fun n => (names.take n, Node.directory)
  let store : Store := { nodes := parents, workingDirectory := names }
  match CommandLine.request arguments with
  | .ok (.run o) =>
    let store ← observe store o.input
    match o.output with
    | some output => observe store output
    | none => return store
  | _ => return store

/-- Writes the output file if the run has changed it. -/
def keep (arguments : List String) (before after : Store) : IO Unit := do
  match CommandLine.request arguments with
  | .ok (.run { output := some output, .. }) =>
    match before.find output, after.find output with
    | .ok (.file old), .ok (.file new) =>
      if old ≠ new then IO.FS.writeBinFile output ⟨new.toArray⟩
    | _, .ok (.file new) => IO.FS.writeBinFile output ⟨new.toArray⟩
    | _, _ => return
  | _ => return

end ColorCube

open ColorCube in
def main (arguments : List String) : IO UInt32 := do
  let store ← snapshot arguments
  let exit := CommandLine.run (← IO.getEnv "RUST_LOG") arguments store
  keep arguments store exit.store
  (← IO.getStdout).write ⟨exit.output.toArray⟩
  for line in exit.errorLines do
    IO.eprintln line
  return .ofNat exit.status
