import ColorCube.Probe
import ColorCube.Store.Access

/-!
# Conversions

A conversion checks its settings, reads a listing, builds a cube of it and writes the cube. How to read
and how to write are stages that can be exchanged. Input and output are streams or files; an output file
is created only when there is a cube to write.
-/

namespace ColorCube

/-- A way to read a listing. -/
abbrev Reader := Settings → Source → Job Unit Listing

/-- A way to write a cube, answering the number of records written. -/
abbrev Writer := Settings → Cube → Job Sink Nat

/-- Reads a text, one record a line, and warns of every line that is none. -/
def textReader : Reader := fun settings source => do
  let listing := Listing.ofLines settings.fullScale (source.lines.map decodeUtf8) 1
  Job.logAll (listing.rejected.map .lineRejected)
  match source.fault with
  | some fault => Job.fail (.io fault)
  | none =>
    Job.log (.listingRead listing.sequence.size listing.rejected.length)
    return listing

/-- Writes one record a line in the order of the settings. -/
def initializerWriter : Writer := fun settings cube => do
  Job.log (.writingStarted cube.size settings.order)
  Sink.writeLines ((cube.traverse settings.order).map Color.render)

structure Converter where
  settings : Settings
  reader : Reader := textReader
  writer : Writer := initializerWriter

namespace Converter

variable {σ : Type}

def check (c : Converter) : Job σ Unit := .ofExcept c.settings.check

def read (c : Converter) (source : Source) : Job Unit Listing := c.reader c.settings source

/-- Reads a file. One that cannot be opened is refused, or counts as empty. -/
def readPathOr (c : Converter) (missing : MissingInput) (store : Store) (path : String) :
    Job Unit Listing := do
  let opened ← Job.within .openInput (return store.openSource path)
  match opened, missing with
  | .ok source, _ => c.read source
  | .error cause, .fail => Job.fail (.unreadableInput path cause)
  | .error cause, .empty =>
    Job.log (.inputMissing path cause)
    return .empty

def readPath (c : Converter) (store : Store) (path : String) : Job Unit Listing :=
  c.readPathOr c.settings.missingInput store path

def buildCube (c : Converter) (listing : Listing) : Job σ Cube :=
  Job.within (.buildCube c.settings.side listing.sequence.size)
    (Cube.build listing.sequence c.settings.side)

/-- Writes the cube of a listing, and sums up. -/
def write (c : Converter) (listing : Listing) (cube : Cube) : Job Sink Summary := do
  let emitted ← Job.within .writeRecords (c.writer c.settings cube)
  let summary : Summary := ⟨listing.sequence.size, listing.rejected.length, emitted⟩
  Job.log (.conversionFinished summary)
  return summary

def convertListing (c : Converter) (listing : Listing) : Job Sink Summary := do
  Job.log .conversionStarted
  let cube ← c.buildCube listing
  c.write listing cube

/-- Converts a source to a sink. -/
def convert (c : Converter) (source : Source) : Job Sink Summary :=
  Job.within (.convert c.settings.order) do
    c.check
    let listing ← Job.beside (.within .readListing (c.read source))
    c.convertListing listing

/-- Converts a file to a sink. -/
def convertFile (c : Converter) (store : Store) (path : String) : Job Sink Summary :=
  Job.within .convertFile do
    c.check
    Job.log (.fileStarted path none)
    let listing ← Job.beside (.within .readListing (c.readPath store path))
    c.convertListing listing

/-- Converts a file to a file, which is created once the cube is there. -/
def convertFileTo (c : Converter) (input output : String) : Job Store Summary :=
  Job.within .convertFileTo do
    c.check
    Job.log (.fileStarted input (some output))
    let store ← Job.get
    let listing ← Job.beside (.within .readListing (c.readPath store input))
    let cube ← c.buildCube listing
    let location ← Job.within .createOutput (Store.create output)
    Store.writingTo location (c.write listing cube)

/-- Probes a file, which has to be there whatever the settings say. -/
def probeFile (c : Converter) (store : Store) (path : String) (offset : Nat) : Job Sink Nat :=
  Job.within (.probeFile offset) do
    c.check
    let listing ← Job.beside (c.readPathOr .fail store path)
    writeProbe listing.sequence offset c.settings.side

end Converter

end ColorCube
