import ColorCube.Job

/-!
# Effects

What a job answers and the state that it leaves, without its log. One equation for each way to put jobs
together: with them the effect of a whole job is read off from the effects of its steps.
-/

namespace ColorCube

namespace Job

variable {σ α β : Type}

/-- The answer of a job and the state after it. -/
def effect (x : Job σ α) (s : σ) : Except Failure α × σ := ((x s).result, (x s).state)

theorem effect_of_result {x : Job σ α} {s : σ} {r : Except Failure α} (h : (x s).result = r) :
    effect x s = (r, (x s).state) := by
  rw [effect, h]

@[simp] theorem effect_pure (a : α) (s : σ) : effect (pure a : Job σ α) s = (.ok a, s) := rfl

@[simp] theorem effect_fail (e : Failure) (s : σ) :
    effect (fail e : Job σ α) s = (.error e, s) := rfl

@[simp] theorem effect_ofExcept (r : Except Failure α) (s : σ) :
    effect (ofExcept r) s = (r, s) := rfl

@[simp] theorem effect_get (s : σ) : effect get s = (.ok s, s) := rfl

@[simp] theorem effect_log (e : Event) (s : σ) : effect (log e) s = (.ok (), s) := rfl

@[simp] theorem effect_logAll (es : List Event) (s : σ) : effect (logAll es) s = (.ok (), s) := rfl

@[simp] theorem effect_within (span : Span) (x : Job σ α) (s : σ) :
    effect (within span x) s = effect x s := rfl

@[simp] theorem effect_beside (x : Job Unit α) (s : σ) :
    effect (beside x) s = ((effect x ()).1, s) := rfl

/-- The second job begins where the first one stops, unless that fails. -/
theorem effect_bind (x : Job σ α) (f : α → Job σ β) (s : σ) :
    effect (x >>= f) s =
      match effect x s with
      | (.ok a, s') => effect (f a) s'
      | (.error e, s') => (.error e, s') := by
  cases hx : x s with
  | mk result state trace =>
    cases result with
    | ok a => simp only [effect, bind_of_ok f hx, hx]
    | error e => simp only [effect, bind_of_error f hx, hx]

theorem effect_bind_ok {x : Job σ α} {s t : σ} {a : α} (f : α → Job σ β)
    (h : effect x s = (.ok a, t)) : effect (x >>= f) s = effect (f a) t := by
  rw [effect_bind, h]

theorem effect_bind_error {x : Job σ α} {s t : σ} {e : Failure} (f : α → Job σ β)
    (h : effect x s = (.error e, t)) : effect (x >>= f) s = (.error e, t) := by
  rw [effect_bind, h]

end Job

end ColorCube
