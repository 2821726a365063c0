import ColorCube.Converter
import ColorCube.Proofs.Effects

/-!
# Accepted lines

A listing keeps the colors of the lines that are records and notes all other lines, so the two counts add
up to the number of lines. A reader answers the listing of a source that ends well and nothing else.
-/

namespace ColorCube

/-- The colors of the records among some lines, in their order. -/
def acceptedColors (fullScale : Binary64) (lines : List (List UInt8)) : List Color :=
  lines.filterMap fun line => (readRecord fullScale (decodeUtf8 line)).toOption

@[simp] theorem acceptedColors_nil (fullScale : Binary64) : acceptedColors fullScale [] = [] := rfl

theorem acceptedColors_cons (fullScale : Binary64) (line : List UInt8) (rest : List (List UInt8)) :
    acceptedColors fullScale (line :: rest) =
      (readRecord fullScale (decodeUtf8 line)).toOption.toList ++ acceptedColors fullScale rest := by
  rw [acceptedColors, List.filterMap_cons]
  cases (readRecord fullScale (decodeUtf8 line)).toOption <;> rfl

namespace Listing

variable (fullScale : Binary64) (lines : List (List UInt8)) (first : Nat)

@[simp] theorem sequence_ofLines :
    (ofLines fullScale (lines.map decodeUtf8) first).sequence =
      (acceptedColors fullScale lines).toArray := by
  simp [ofLines, acceptedColors, List.filterMap_map, Function.comp_def]

theorem rejected_ofLines_cons (line : List Char) (rest : List (List Char)) :
    (ofLines fullScale (line :: rest) first).rejected =
      (rejection? first line (readRecord fullScale line)).toList ++
        (ofLines fullScale rest (first + 1)).rejected := by
  simp only [ofLines, List.map_cons, List.zipIdx_cons, List.filterMap_cons]
  cases rejection? first line (readRecord fullScale line) <;> rfl

/-- Every line is either accepted or noted. -/
theorem accepted_add_rejected :
    (acceptedColors fullScale lines).length +
      (ofLines fullScale (lines.map decodeUtf8) first).rejected.length = lines.length := by
  induction lines generalizing first with
  | nil => rfl
  | cons line rest ih =>
    have h := ih (first + 1)
    rw [acceptedColors_cons, List.map_cons, rejected_ofLines_cons, List.length_append,
      List.length_append, List.length_cons]
    cases readRecord fullScale (decodeUtf8 line) with
    | ok color =>
      simp only [Except.toOption, rejection?, Option.toList_some, Option.toList_none,
        List.length_cons, List.length_nil]
      omega
    | error reason =>
      simp only [Except.toOption, rejection?, Option.toList_some, Option.toList_none,
        List.length_cons, List.length_nil]
      omega

theorem length_rejected_ofLines :
    (ofLines fullScale (lines.map decodeUtf8) first).rejected.length =
      lines.length - (acceptedColors fullScale lines).length := by
  have h := accepted_add_rejected fullScale lines first
  omega

end Listing

/-- The colors that a source yields. -/
def Source.colors (fullScale : Binary64) (source : Source) : List Color :=
  acceptedColors fullScale source.lines

/-- What the lines of a source yield. -/
def Source.listing (fullScale : Binary64) (source : Source) : Listing :=
  .ofLines fullScale (source.lines.map decodeUtf8) 1

/-- The reader fails exactly when the source does. -/
theorem effect_textReader (settings : Settings) (source : Source) :
    Job.effect (textReader settings source) () =
      (match source.fault with
        | some fault => .error (.io fault)
        | none => .ok (source.listing settings.fullScale), ()) := by
  simp only [textReader, Job.effect_bind, Job.effect_logAll]
  cases source.fault with
  | some fault => rfl
  | none => simp [Job.effect_bind, Source.listing]

end ColorCube
