import ColorCube.Failure

/-!
# Files

A tree of directories and files. A path is followed name by name from the working directory, or from the
root when it begins with a slash; every name but the last has to be a directory, and so has the last one
when a slash follows it. What stands at a location lies on a medium, which may refuse access to it, and may fail
while it is read or written.
-/

namespace ColorCube

/-- The names from the root down to a file or directory. -/
abbrev Location := List String

inductive Node where
  | file (bytes : List UInt8)
  | directory
  deriving DecidableEq, Repr

/-- What a location lies on. One that is closed is neither opened nor gone through nor written, and where a medium
is closed to writing no file is created. With a fault, reading or writing fails with it past so many bytes. -/
structure Medium where
  closed : Option SystemError := none
  closedToWriting : Option SystemError := none
  readFault : Option (Nat × Fault) := none
  writeFault : Option (Nat × Fault) := none
  deriving DecidableEq, Repr

namespace Medium

variable {α : Type}

def opened (m : Medium) (a : α) : Except SystemError α :=
  match m.closed with
  | none => .ok a
  | some cause => .error cause

def created (m : Medium) (a : α) : Except SystemError α :=
  match m.closed, m.closedToWriting with
  | none, none => .ok a
  | some cause, _ => .error cause
  | none, some cause => .error cause

@[simp] theorem opened_eq_ok_iff {m : Medium} {a b : α} : m.opened a = .ok b ↔ m.closed = none ∧ a = b := by
  unfold opened
  cases m.closed <;> simp

@[simp] theorem created_eq_ok_iff {m : Medium} {a b : α} :
    m.created a = .ok b ↔ m.closed = none ∧ m.closedToWriting = none ∧ a = b := by
  unfold created
  cases m.closed <;> cases m.closedToWriting <;> simp

end Medium

/-- What stands at each location but the root, which is a directory. -/
structure Store where
  nodes : List (Location × Node) := []
  workingDirectory : Location := []
  medium : Location → Medium := fun _ => {}

namespace Store

def node? (s : Store) (l : Location) : Option Node :=
  if l = [] then some .directory else s.nodes.lookup l

def put (s : Store) (l : Location) (n : Node) : Store := { s with nodes := (l, n) :: s.nodes }

/-- The directory at a location, as one to go on from. -/
def enter (s : Store) (l : Location) : Except SystemError Unit :=
  match s.node? l with
  | some .directory => (s.medium l).opened ()
  | some (.file _) => .error .notDirectory
  | none => .error .notFound

/-- One name further on from a directory. -/
def step (s : Store) (l : Location) (name : String) : Except SystemError Location :=
  match s.enter l with
  | .error e => .error e
  | .ok () =>
    if name = "." then .ok l
    else if name = ".." then .ok l.dropLast
    else if 255 < name.utf8ByteSize then .error .nameTooLong
    else .ok (l ++ [name])

def follow (s : Store) (l : Location) : List String → Except SystemError Location
  | [] => .ok l
  | name :: rest =>
    match s.step l name with
    | .error e => .error e
    | .ok l' => s.follow l' rest

/-- A path that the system takes up: where it begins, its names, and whether a slash ends it. -/
structure Route where
  start : Location
  names : List String
  isDirectory : Bool

def route (s : Store) (path : String) : Except SystemError Route :=
  let pieces := path.toList.splitOn '/'
  if path.toList.contains '\x00' then .error .nulInPath
  else if path.isEmpty then .error .notFound
  else if 4096 ≤ path.utf8ByteSize then .error .nameTooLong
  else .ok
    { start := if pieces.head? = some [] then [] else s.workingDirectory
      names := (pieces.filter fun p => !p.isEmpty).map .ofList
      isDirectory := pieces.getLast? = some [] }

/-- Where a path leads to, and what is opened there. -/
def resolve (s : Store) (path : String) : Except SystemError (Location × Node) :=
  match s.route path with
  | .error e => .error e
  | .ok r =>
    match s.follow r.start r.names with
    | .error e => .error e
    | .ok l =>
      match s.node? l with
      | none => .error .notFound
      | some (.file bytes) =>
        if r.isDirectory then .error .notDirectory else (s.medium l).opened (l, .file bytes)
      | some .directory => (s.medium l).opened (l, .directory)

def find (s : Store) (path : String) : Except SystemError Node := (s.resolve path).map (·.2)

/-- Where a file that is created under a name in a directory will stand. -/
def locateIn (s : Store) (parent : Location) (name : String) : Except SystemError Location :=
  match s.step parent name with
  | .error e => .error e
  | .ok l => if s.node? l = some .directory then .error .isDirectory else (s.medium l).created l

/-- Where a file that is created at a path will stand, whether there is one already or not. -/
def locate (s : Store) (path : String) : Except SystemError Location :=
  match s.route path with
  | .error e => .error e
  | .ok r =>
    match s.follow r.start r.names.dropLast with
    | .error e => .error e
    | .ok parent =>
      match s.enter parent, r.names.getLast? with
      | .error e, _ => .error e
      | .ok (), none => .error .isDirectory
      | .ok (), some name =>
        if r.isDirectory then .error .isDirectory else s.locateIn parent name

def writeFile (s : Store) (path : String) (bytes : List UInt8) : Except SystemError Store :=
  (s.locate path).map fun l => s.put l (.file bytes)

def makeDirectory (s : Store) (path : String) : Except SystemError Store :=
  match s.route path with
  | .error e => .error e
  | .ok r =>
    match s.follow r.start r.names with
    | .error e => .error e
    | .ok l =>
      if (s.node? l).isSome then .error .alreadyExists else (s.medium l).created (s.put l .directory)

def contains (s : Store) (path : String) : Bool := (s.find path).toBool

end Store

end ColorCube
