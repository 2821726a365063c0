import ColorCube.Log.Trace

/-!
# Jobs

A job works on a state, may fail, and keeps a log. State and log are there after a failure too: what has
been written stays written, and what has been logged stays logged.
-/

namespace ColorCube

/-- What a job leaves behind. -/
structure Job.Outcome (σ α : Type) where
  result : Except Failure α
  state : σ
  trace : Trace

def Job (σ α : Type) : Type := σ → Job.Outcome σ α

namespace Job

variable {σ α β : Type}

protected def pure (a : α) : Job σ α := fun s => ⟨.ok a, s, []⟩

/-- One job after another; the second does not begin when the first fails. -/
protected def bind (x : Job σ α) (f : α → Job σ β) : Job σ β := fun s =>
  match x s with
  | ⟨.ok a, s', t⟩ =>
    let next := f a s'
    { next with trace := t ++ next.trace }
  | ⟨.error e, s', t⟩ => ⟨.error e, s', t⟩

instance : Monad (Job σ) where
  pure := Job.pure
  bind := Job.bind

def fail (e : Failure) : Job σ α := fun s => ⟨.error e, s, []⟩

def ofExcept (r : Except Failure α) : Job σ α := fun s => ⟨r, s, []⟩

/-- The state as it is. -/
def get : Job σ σ := fun s => ⟨.ok s, s, []⟩

def log (e : Event) : Job σ Unit := fun s => ⟨.ok (), s, .ofEvents [e]⟩

def logAll (es : List Event) : Job σ Unit := fun s => ⟨.ok (), s, .ofEvents es⟩

/-- The work as a span of the log. -/
def within (span : Span) (x : Job σ α) : Job σ α := fun s =>
  let done := x s
  { done with trace := .within span done.trace }

/-- Work that needs no state, done in the presence of one. -/
def beside (x : Job Unit α) : Job σ α := fun s =>
  let done := x ()
  ⟨done.result, s, done.trace⟩

theorem pure_apply (a : α) (s : σ) : (Pure.pure a : Job σ α) s = ⟨.ok a, s, []⟩ := rfl

theorem bind_of_ok {x : Job σ α} {s s' : σ} {a : α} {t : Trace} (f : α → Job σ β)
    (h : x s = ⟨.ok a, s', t⟩) :
    (x >>= f) s = { f a s' with trace := t ++ (f a s').trace } := by
  show Job.bind x f s = _
  rw [Job.bind, h]

theorem bind_of_error {x : Job σ α} {s s' : σ} {e : Failure} {t : Trace} (f : α → Job σ β)
    (h : x s = ⟨.error e, s', t⟩) : (x >>= f) s = ⟨.error e, s', t⟩ := by
  show Job.bind x f s = _
  rw [Job.bind, h]

end Job

end ColorCube
