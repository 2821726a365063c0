import ColorCube.Main
import ColorCube.Proofs.Concatenation
import ColorCube.Proofs.Lossless
import ColorCube.Proofs.Meaning
import ColorCube.Proofs.Orders
import ColorCube.Proofs.Overflow
import ColorCube.Proofs.PartialWrites
import ColorCube.Proofs.ExitStatus
import ColorCube.Proofs.Rereading
import ColorCube.Proofs.Replacement
import ColorCube.Proofs.Verdict
import ColorCube.Proofs.RecordGrammar
import ColorCube.Proofs.Padding
import ColorCube.Proofs.Rendering
import ColorCube.Proofs.PrintedOrder
import ColorCube.Proofs.ProbedEntries
import ColorCube.Proofs.Interruptions
