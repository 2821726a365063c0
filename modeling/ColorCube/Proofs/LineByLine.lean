import Mathlib.Data.List.TakeWhile
import ColorCube.Proofs.Accounting

/-!
# Line by line

A text can be read as it comes: a line is asked for when the one before it has been dealt with, and a line that is
no record is warned of before the next one is asked for. This is what the text reader does, so its warnings are
out when a source fails.
-/

namespace ColorCube

/-- The next line of a source, and what the source has left then. There is none at its end, and what no newline
closes is a line only if the source ends well. -/
def Source.nextLine (s : Source) : Except Fault (Option (List UInt8 × Source)) :=
  let line := s.bytes.takeWhile (· != newlineByte)
  match s.bytes.dropWhile (· != newlineByte), s.fault with
  | _ :: rest, _ => .ok (some (line, { s with bytes := rest }))
  | [], some fault => .error fault
  | [], none => .ok (if line.isEmpty then none else some (line, { bytes := [] }))

namespace Source

variable {line : List UInt8}

theorem bne_newlineByte_of_notMem (h : newlineByte ∉ line) : ∀ b ∈ line, (b != newlineByte) = true :=
  fun _ hb => bne_iff_ne.mpr fun he => h (he ▸ hb)

theorem nextLine_closed (h : newlineByte ∉ line) (rest : List UInt8) (fault : Option Fault) :
    nextLine ⟨line ++ newlineByte :: rest, fault⟩ = .ok (some (line, ⟨rest, fault⟩)) := by
  have hline := bne_newlineByte_of_notMem h
  simp [nextLine, List.takeWhile_append_of_pos hline, List.dropWhile_append_of_pos hline]

theorem nextLine_unclosed (h : newlineByte ∉ line) (fault : Option Fault) :
    nextLine ⟨line, fault⟩ =
      match fault with
      | some fault => .error fault
      | none => .ok (if line.isEmpty then none else some (line, { bytes := [] })) := by
  have hline := bne_newlineByte_of_notMem h
  simp only [nextLine, List.takeWhile_eq_self_iff.mpr hline, List.dropWhile_eq_nil_iff.mpr hline]
  cases fault <;> rfl

/-- The lines that can be read are the next one and those after it, up to where there is none. -/
theorem lines_of_nextLine (s : Source) :
    match s.nextLine with
    | .error fault => s.lines = [] ∧ s.fault = some fault
    | .ok none => s.lines = [] ∧ s.fault = none
    | .ok (some (line, rest)) => s.lines = line :: rest.lines ∧ rest.fault = s.fault := by
  obtain ⟨bytes, fault⟩ := s
  induction bytes using induction_on_lines newlineByte with
  | unclosed bytes hb =>
    rw [nextLine_unclosed hb]
    cases fault with
    | some fault => simp [lines, completeLines, List.splitOn_eq_singleton hb]
    | none => cases bytes <;> simp [lines, lines_of_notMem hb]
  | closed bytes rest hb =>
    rw [nextLine_closed hb]
    cases fault with
    | some fault => simp [lines, completeLines_append_cons, List.splitOn_eq_singleton hb]
    | none => simp [lines, lines_closed hb]

end Source

/-- Reads a source on from the line with some number, after what has been found in the lines before it. -/
def readOn (fullScale : Binary64) (number : Nat) (source : Source) (listing : Listing) : Job Unit Listing :=
  match _h : source.nextLine with
  | .error fault => Job.fail (.io fault)
  | .ok none => do
    Job.log (.listingRead listing.sequence.size listing.rejected.length)
    return listing
  | .ok (some (line, rest)) =>
    match readRecord fullScale (decodeUtf8 line) with
    | .ok color => readOn fullScale (number + 1) rest { listing with sequence := listing.sequence.push color }
    | .error reason => do
      let rejected : RejectedLine := ⟨number, .ofList (trim (decodeUtf8 line)), reason⟩
      Job.log (.lineRejected rejected)
      readOn fullScale (number + 1) rest { listing with rejected := listing.rejected ++ [rejected] }
termination_by source.lines.length
decreasing_by
  all_goals
    have hlines := source.lines_of_nextLine
    rw [_h] at hlines
    rw [hlines.1]
    exact Nat.lt_succ_self _

namespace Job

variable {σ α : Type}

theorem logAll_nil_bind (x : Job σ α) : (do logAll []; x) = x := rfl

theorem log_bind_logAll (e : Event) (es : List Event) (x : Job σ α) :
    (do log e; logAll es; x) = (do logAll (e :: es); x) := rfl

end Job

theorem Listing.sequence_ofLines_cons (fullScale : Binary64) (line : List Char) (rest : List (List Char))
    (first : Nat) : (ofLines fullScale (line :: rest) first).sequence =
      (readRecord fullScale line).toOption.toArray ++ (ofLines fullScale rest (first + 1)).sequence := by
  cases h : readRecord fullScale line <;> simp [ofLines, h, Except.toOption]

/-- How a reading ends that has found some listing. -/
def conclude (fault : Option Fault) (listing : Listing) : Job Unit Listing :=
  match fault with
  | some fault => Job.fail (.io fault)
  | none => do
    Job.log (.listingRead listing.sequence.size listing.rejected.length)
    return listing

/-- Reading on warns of the rejected lines that there are from here, and concludes with all that was found. -/
theorem readOn_eq (fullScale : Binary64) (number : Nat) (source : Source) (listing : Listing) :
    readOn fullScale number source listing = (do
      let found := Listing.ofLines fullScale (source.lines.map decodeUtf8) number
      Job.logAll (found.rejected.map .lineRejected)
      conclude source.fault ⟨listing.sequence ++ found.sequence, listing.rejected ++ found.rejected⟩) := by
  fun_induction readOn fullScale number source listing with
  | case1 number source listing fault h =>
    have hsource := source.lines_of_nextLine
    rw [h] at hsource
    simp only [hsource.1, hsource.2, List.map_nil, Listing.rejected_ofLines_nil]
    rfl
  | case2 number source listing h =>
    have hsource := source.lines_of_nextLine
    rw [h] at hsource
    simp [hsource.1, hsource.2, Listing.ofLines, Job.logAll_nil_bind, conclude]
  | case3 number source listing line rest h color hcolor ih =>
    have hsource := source.lines_of_nextLine
    rw [h] at hsource
    rw [ih, hsource.1, hsource.2]
    simp [Listing.rejected_ofLines_cons, Listing.sequence_ofLines_cons, hcolor, Listing.rejection?,
      Except.toOption]
  | case4 number source listing line rest h reason hreason rejected ih =>
    have hsource := source.lines_of_nextLine
    rw [h] at hsource
    rw [ih, hsource.1, hsource.2]
    simp [Listing.rejected_ofLines_cons, Listing.sequence_ofLines_cons, hreason, Listing.rejection?,
      Except.toOption, Job.log_bind_logAll, rejected]

/-- The text reader reads line by line. -/
theorem readOn_eq_textReader (settings : Settings) (source : Source) :
    readOn settings.fullScale 1 source .empty = textReader settings source := by
  rw [readOn_eq, Listing.empty]
  simp only [Array.empty_append, List.nil_append]
  rfl

end ColorCube
