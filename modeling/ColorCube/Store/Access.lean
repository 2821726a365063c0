import ColorCube.Store
import ColorCube.Stream

/-!
# Files as streams

Opening a file for reading gives a source. A file to be written is created first, which empties it if it
was there, and then takes what a job writes to a sink, up to where its medium fails.
-/

namespace ColorCube

namespace Medium

def source (m : Medium) (bytes : List UInt8) : Source :=
  match m.readFault with
  | none => { bytes := bytes }
  | some (n, fault) => { bytes := bytes.take n, fault := some fault }

/-- An empty file that is open for writing. -/
def sink (m : Medium) : Sink := { limit := m.writeFault }

end Medium

namespace Store

/-- What opening a path gives to read. A directory opens, and fails when it is read. -/
def openSource (s : Store) (path : String) : Except SystemError Source :=
  (s.resolve path).map fun
    | (l, .file bytes) => (s.medium l).source bytes
    | (_, .directory) => { bytes := [], fault := some (.system .isDirectory) }

def create (path : String) : Job Store Location := fun s =>
  match s.locate path with
  | .error cause => ⟨.error (.io (.creation path cause)), s, []⟩
  | .ok l => ⟨.ok l, s.put l (.file []), []⟩

def writingTo {α : Type} (l : Location) (x : Job Sink α) : Job Store α := fun s =>
  let done := x (s.medium l).sink
  { done with state := s.put l (.file done.state.written) }

end Store

end ColorCube
