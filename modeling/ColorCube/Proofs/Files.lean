import ColorCube.Proofs.Effects
import ColorCube.Proofs.Paths

/-!
# Output files

Creating a file and writing it changes what stands at one location and nothing else. All directories stay where they
are: so a path at which a file is created opens that file once it is there.
-/

namespace ColorCube.Store

theorem node?_put (store : Store) {l : Location} (h : l ≠ []) (n : Node) (l' : Location) :
    (store.put l n).node? l' = if l' = l then some n else store.node? l' := by
  unfold node? put
  by_cases hroot : l' = []
  · subst hroot
    rw [if_pos rfl, if_neg (Ne.symm h), if_pos rfl]
  · rw [if_neg hroot, if_neg hroot, List.lookup_cons]
    by_cases hl : l' = l
    · subst hl
      simp
    · rw [if_neg hl, beq_eq_false_iff_ne.mpr hl]

/-- Of two nodes that are put at one place the second one stands there. -/
theorem node?_put_put (store : Store) {l : Location} (h : l ≠ []) (n n' : Node) (l' : Location) :
    ((store.put l n).put l n').node? l' = if l' = l then some n' else store.node? l' := by
  rw [node?_put _ h, node?_put _ h]
  by_cases hl : l' = l
  · rw [if_pos hl, if_pos hl]
  · rw [if_neg hl, if_neg hl, if_neg hl]

/-- A file is not created at a directory, so not at the root. -/
theorem ne_nil_of_locate {store : Store} {path : String} {l : Location}
    (h : store.locate path = .ok l) : l ≠ [] := by
  rintro rfl
  obtain ⟨r, -, -, -, -, hnode, -⟩ := locate_eq_ok_iff.mp h
  exact hnode (if_pos rfl)

/-- The sink of an output file that has been created. -/
def outputSink (store : Store) (path : String) : Sink :=
  match store.locate path with
  | .ok l => (store.medium l).sink
  | .error _ => {}

/-- The store with an output file that has been created and then written. -/
def withOutput (store : Store) (path : String) (bytes : List UInt8) : Store :=
  match store.locate path with
  | .ok l => (store.put l (.file [])).put l (.file bytes)
  | .error _ => store

theorem node?_withOutput (store : Store) (path : String) (bytes : List UInt8) (l : Location) :
    (store.withOutput path bytes).node? l =
      if (store.locate path).toOption = some l then some (.file bytes) else store.node? l := by
  unfold withOutput
  cases h : store.locate path with
  | error e => simp [Except.toOption]
  | ok l' =>
    simp only [Except.toOption, node?_put_put store (ne_nil_of_locate h), Option.some.injEq]
    by_cases he : l = l'
    · rw [if_pos he, if_pos he.symm]
    · rw [if_neg he, if_neg (Ne.symm he)]

theorem effect_create (path : String) (s : Store) :
    Job.effect (create path) s =
      match s.locate path with
      | .error cause => (.error (.io (.creation path cause)), s)
      | .ok l => (.ok l, s.put l (.file [])) := by
  cases h : s.locate path <;> simp [Job.effect, create, h]

theorem effect_writingTo {α : Type} (l : Location) (x : Job Sink α) (s : Store) :
    Job.effect (writingTo l x) s =
      ((Job.effect x (s.medium l).sink).1,
        s.put l (.file (Job.effect x (s.medium l).sink).2.written)) := rfl

/-- A store that differs from another one by a file that stands where no directory was. -/
structure HasWritten (s t : Store) (place : Location) (bytes : List UInt8) : Prop where
  workingDirectory_eq : t.workingDirectory = s.workingDirectory
  medium_eq : t.medium = s.medium
  node?_eq : ∀ l, t.node? l = if l = place then some (.file bytes) else s.node? l
  not_directory : s.node? place ≠ some .directory

namespace HasWritten

variable {s t : Store} {place : Location} {bytes : List UInt8}

theorem isPassable {l : Location} (h : HasWritten s t place bytes) (hl : s.IsPassable l) : t.IsPassable l := by
  have hne : l ≠ place := by
    rintro rfl
    exact h.not_directory hl.1
  refine ⟨?_, ?_⟩
  · rw [h.node?_eq, if_neg hne, hl.1]
  · rw [h.medium_eq, hl.2]

theorem stepsTo {l next : Location} {name : String} (h : HasWritten s t place bytes)
    (hl : s.StepsTo l name next) : t.StepsTo l name next := by
  cases hl with
  | stay hl => exact .stay (h.isPassable hl)
  | up hl => exact .up (h.isPassable hl)
  | down hl hstay hup hlength => exact .down (h.isPassable hl) hstay hup hlength

theorem leadsTo {l l' : Location} {names : List String} (h : HasWritten s t place bytes)
    (hl : s.LeadsTo l names l') : t.LeadsTo l names l' := by
  induction hl with
  | here l => exact .here l
  | on hstep _ ih => exact .on (h.stepsTo hstep) ih

theorem route (h : HasWritten s t place bytes) (path : String) : t.route path = s.route path := by
  unfold Store.route
  rw [h.workingDirectory_eq]

/-- A path at which a file was created leads to that file. -/
theorem resolve {path : String} (h : HasWritten s t place bytes) (hl : s.locate path = .ok place) :
    t.resolve path = .ok (place, .file bytes) := by
  obtain ⟨r, hr, -, hd, hleads, -, hclosed, -⟩ := locate_eq_ok_iff.mp hl
  refine resolve_eq_ok_iff.mpr ⟨r, (h.route path).trans hr, h.leadsTo hleads, ?_, ?_, ?_⟩
  · rw [h.node?_eq, if_pos rfl]
  · rw [hd]
    exact nofun
  · rw [h.medium_eq, hclosed]

end HasWritten

/-- An output file that is created and then written. -/
theorem hasWritten_withOutput {s : Store} {place : Location} {path : String} (h : s.locate path = .ok place)
    (bytes : List UInt8) : HasWritten s (s.withOutput path bytes) place bytes := by
  obtain ⟨r, -, -, -, -, hnode, -⟩ := locate_eq_ok_iff.mp h
  refine ⟨?_, ?_, fun l => ?_, hnode⟩
  · rw [withOutput, h]
    rfl
  · rw [withOutput, h]
    rfl
  · rw [s.node?_withOutput, h]
    simp only [Except.toOption, Option.some.injEq, eq_comm]

end ColorCube.Store
