import ColorCube.Proofs.Grid
import ColorCube.Proofs.Reading

/-!
# Causes of failure

Everything that can end a run, as a list in the order in which the run comes upon it. A run answers the
first cause that applies. All causes but the last come before anything is written, and then nothing is.
-/

namespace ColorCube

/-- A failure, if a condition holds. -/
def cause (p : Prop) [Decidable p] (e : Failure) : Option Failure := if p then some e else none

@[simp] theorem cause_eq_none_iff (p : Prop) [Decidable p] (e : Failure) : cause p e = none ↔ ¬ p := by
  by_cases h : p <;> simp [cause, h]

/-- The first failure of those that apply. -/
def firstCause (causes : List (Option Failure)) : Option Failure := causes.findSome? id

@[simp] theorem firstCause_nil : firstCause [] = none := rfl

@[simp] theorem firstCause_some (e : Failure) (rest : List (Option Failure)) :
    firstCause (some e :: rest) = some e := rfl

@[simp] theorem firstCause_none (rest : List (Option Failure)) :
    firstCause (none :: rest) = firstCause rest := rfl

theorem firstCause_append (xs ys : List (Option Failure)) :
    firstCause (xs ++ ys) = (firstCause xs).or (firstCause ys) := List.findSome?_append

theorem firstCause_eq_none_iff (causes : List (Option Failure)) :
    firstCause causes = none ↔ ∀ c ∈ causes, c = none := List.findSome?_eq_none_iff

variable {σ α : Type}

/-- Work that is done, from a state, only when no cause applies. -/
def guarded (causes : List (Option Failure)) (s : σ) (work : Except Failure α × σ) :
    Except Failure α × σ :=
  match firstCause causes with
  | some e => (.error e, s)
  | none => work

@[simp] theorem guarded_nil (s : σ) (work : Except Failure α × σ) : guarded [] s work = work := rfl

@[simp] theorem guarded_some (e : Failure) (rest : List (Option Failure)) (s : σ)
    (work : Except Failure α × σ) : guarded (some e :: rest) s work = (.error e, s) := rfl

@[simp] theorem guarded_none (rest : List (Option Failure)) (s : σ) (work : Except Failure α × σ) :
    guarded (none :: rest) s work = guarded rest s work := rfl

theorem guarded_append (xs ys : List (Option Failure)) (s : σ) (work : Except Failure α × σ) :
    guarded (xs ++ ys) s work = guarded xs s (guarded ys s work) := by
  unfold guarded
  rw [firstCause_append]
  cases firstCause xs <;> rfl

theorem guarded_of_none {causes : List (Option Failure)} (s : σ) (work : Except Failure α × σ)
    (h : firstCause causes = none) : guarded causes s work = work := by
  rw [guarded, h]

/-- Guarded work that succeeds has been done. -/
theorem eq_of_guarded_eq_ok {causes : List (Option Failure)} {s t : σ} {a : α}
    {work : Except Failure α × σ} (h : guarded causes s work = (.ok a, t)) :
    firstCause causes = none ∧ work = (.ok a, t) := by
  unfold guarded at h
  cases hc : firstCause causes with
  | some e =>
    rw [hc] at h
    exact absurd (congrArg Prod.fst h) nofun
  | none =>
    rw [hc] at h
    exact ⟨rfl, h⟩

/-- Causes that one job meets before another are met by both in a row. -/
theorem Job.effect_bind_guarded {β : Type} {x : Job σ α} {f : α → Job σ β} {s s' : σ} {a : α}
    {causes : List (Option Failure)} (h : effect x s = guarded causes s (.ok a, s')) :
    effect (x >>= f) s = guarded causes s (effect (f a) s') := by
  rw [effect_bind, h]
  unfold guarded
  cases firstCause causes <;> rfl

/-- Settings are refused for a side of zero, and then for a full scale that is not a finite number above
zero. -/
def Settings.causes (s : Settings) : List (Option Failure) :=
  [cause (s.side = 0) (.invalidSide 0),
    cause (s.fullScale.isPositiveFinite = false) (.invalidFullScale s.fullScale)]

theorem Settings.effect_check (s : Settings) (st : σ) :
    Job.effect (.ofExcept s.check) st = guarded s.causes st (.ok (), st) := by
  by_cases hs : s.side = 0
  · simp [check, causes, cause, hs]
  · cases hf : s.fullScale.isPositiveFinite <;> simp [check, causes, cause, hs, hf]

theorem Settings.check_eq_ok_iff (s : Settings) :
    s.check = .ok () ↔ 1 ≤ s.side ∧ s.fullScale.isPositiveFinite := by
  unfold check
  by_cases hs : s.side = 0
  · simp [hs]
  · have hpos : 1 ≤ s.side := Nat.pos_of_ne_zero hs
    cases hf : s.fullScale.isPositiveFinite <;> simp [hs, hpos]

/-- A source ends a run where it fails. -/
def Source.cause? (source : Source) : Option Failure := source.fault.map .io

/-- An input that cannot be opened ends a run, unless it counts as empty. -/
def Store.openCause? (store : Store) (missing : MissingInput) (path : String) : Option Failure :=
  match store.openSource path, missing with
  | .error e, .fail => some (.unreadableInput path e)
  | _, _ => none

/-- What is read at a path: nothing, if it cannot be opened. -/
def Store.sourceAt (store : Store) (path : String) : Source :=
  match store.openSource path with
  | .ok source => source
  | .error _ => { bytes := [] }

/-- No cube has a side whose third power is not a count, and none has too few entries. -/
def cubeCauses (side entries : Nat) : List (Option Failure) :=
  [cause (countBound ≤ side ^ 3) (.invalidSide side),
    cause (entries < side ^ 3) (.insufficientData (side ^ 3) entries)]

/-- With a side whose third power is a count, only a lack of entries speaks against a cube. -/
theorem firstCause_cubeCauses {side entries : Nat} (h : side ^ 3 ≤ 2 ^ 64 - 1) :
    firstCause (cubeCauses side entries) =
      cause (entries < side ^ 3) (.insufficientData (side ^ 3) entries) := by
  have hbound : ¬ countBound ≤ side ^ 3 := Nat.not_le.mpr (lt_countBound_iff.mpr h)
  rw [cubeCauses, cause, if_neg hbound, firstCause_none]
  cases cause (entries < side ^ 3) (.insufficientData (side ^ 3) entries) <;> rfl

/-- With enough entries only the side can speak against a cube. -/
theorem cubeCauses_of_enough {side entries : Nat} (h : side ^ 3 ≤ entries) :
    cubeCauses side entries = [cause (countBound ≤ side ^ 3) (.invalidSide side), none] := by
  rw [cubeCauses, (cause_eq_none_iff (entries < side ^ 3) _).mpr (Nat.not_lt.mpr h)]

/-- No probe has a side whose square is not a count, and none begins at that square or past it. -/
def probeCauses (side offset : Nat) : List (Option Failure) :=
  [cause (countBound ≤ side ^ 2) (.invalidSide side),
    cause (side ^ 2 ≤ offset) (.invalidProbeOffset offset (side ^ 2))]

/-- An output file that cannot be created ends a run. -/
def Store.createCause? (store : Store) (path : String) : Option Failure :=
  match store.locate path with
  | .error e => some (.io (.creation path e))
  | .ok _ => none

/-- A sink ends a run when it does not take all of a text or cannot be flushed. -/
def Sink.cause? (sink : Sink) (text : List UInt8) : Option Failure := (sink.fault? text).map .io

/-- The answer of a run that meets no cause, or else the first one. -/
def verdict (causes : List (Option Failure)) (answer : α) : Except Failure α :=
  match firstCause causes with
  | some e => .error e
  | none => .ok answer

theorem eq_none_of_verdict_eq_ok {c : Option Failure} {answer a : α} (h : verdict [c] answer = .ok a) :
    c = none := by
  cases c with
  | none => rfl
  | some e => cases h

/-- A text that is written at the end of a run. -/
def Sink.taking (sink : Sink) (text : List UInt8) (answer : α) : Except Failure α × Sink :=
  (verdict [sink.cause? text] answer, (sink.write text).1)

/-- A sink that nothing goes wrong with takes all of a text. -/
theorem Sink.accepted_of_cause? {sink : Sink} {text : List UInt8} (h : sink.cause? text = none) :
    sink.accepted text = text := by
  have hf : sink.fault? text = none := Option.map_eq_none_iff.mp h
  unfold accepted
  unfold fault? at hf
  cases hl : sink.limit with
  | none => rfl
  | some l =>
    rw [hl] at hf
    by_cases hroom : l.1 < text.length
    · simp [hroom] at hf
    · exact List.take_of_length_le (Nat.not_lt.mp hroom)

/-- A text whose writing succeeds is written. -/
theorem Sink.written_of_taking_eq_ok {sink t : Sink} {text : List UInt8} {answer a : α}
    (h : sink.taking text answer = (.ok a, t)) : t.written = sink.written ++ text := by
  have hc : sink.cause? text = none := eq_none_of_verdict_eq_ok (congrArg Prod.fst h)
  have ht : (sink.write text).1 = t := congrArg Prod.snd h
  rw [← ht, written_write, accepted_of_cause? hc]

/-- A sink that has room for a text and can be flushed ends no run. -/
theorem Sink.cause?_eq_none {sink : Sink} {text : List UInt8} (hflush : sink.flushFault = none)
    (hroom : ∀ room fault, sink.limit = some (room, fault) → text.length ≤ room) :
    sink.cause? text = none := by
  rw [cause?, Option.map_eq_none_iff, Sink.fault?]
  cases hl : sink.limit with
  | none => exact hflush
  | some l => exact (if_neg (Nat.not_lt.mpr (hroom l.1 l.2 hl))).trans hflush

/-- A sink that ends no run takes all of a text and answers well. -/
theorem Sink.taking_of_cause? {sink : Sink} {text : List UInt8} (answer : α) (h : sink.cause? text = none) :
    (sink.taking text answer).1 = .ok answer ∧
      (sink.taking text answer).2.written = sink.written ++ text := by
  refine ⟨?_, ?_⟩
  · rw [taking, h]
    rfl
  · rw [taking, written_write, accepted_of_cause? h]

/-- A sink that cannot fail takes every text and answers well. -/
theorem Sink.taking_of_unfailing {sink : Sink} (text : List UInt8) (answer : α)
    (hl : sink.limit = none) (hf : sink.flushFault = none) :
    (sink.taking text answer).1 = .ok answer ∧
      (sink.taking text answer).2.written = sink.written ++ text := by
  apply taking_of_cause?
  apply cause?_eq_none hf
  rw [hl]
  exact nofun

theorem Sink.effect_writeLines_eq_taking (ls : List (List Char)) (s : Sink) :
    Job.effect (writeLines ls) s = s.taking (textOf ls) ls.length := by
  rw [effect_writeLines, taking, cause?]
  cases s.fault? (textOf ls) <;> rfl

end ColorCube
