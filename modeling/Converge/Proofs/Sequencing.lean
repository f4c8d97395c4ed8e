import Converge.Device

/-!
# Running computations that keep a state

Commands are written and devices are asked by computations that change a state and may fail. The
equations below run such a computation one step at a time; a failure keeps the state that was
reached. A sequence of results succeeds exactly when each of its steps does.
-/

namespace Converge.Session

variable {σ α β : Type}

theorem bind_eq_ok_iff {r : Except Failure α} {f : α → Except Failure β} {b : β} :
    r.bind f = .ok b ↔ ∃ a, r = .ok a ∧ f a = .ok b := by
  cases r with
  | error e => simp [Except.bind]
  | ok a => simp [Except.bind]

theorem map_eq_ok_iff {r : Except Failure α} {f : α → β} {b : β} :
    r.map f = .ok b ↔ ∃ a, r = .ok a ∧ f a = b := by
  cases r with
  | error e => simp [Except.map]
  | ok a => simp [Except.map]

theorem eq_ok_of_isOk {ε : Type} {r : Except ε α} (h : r.isOk = true) (a : α) :
    r = .ok (r.toOption.getD a) := by
  cases r with
  | error e => cases h
  | ok a => rfl

@[simp]
theorem run_pure (a : α) (s : σ) : (pure a : ExceptT Failure (StateM σ) α).run s = (.ok a, s) := rfl

@[simp]
theorem run_modify (change : σ → σ) (s : σ) :
    (modify change : ExceptT Failure (StateM σ) Unit).run s = (.ok (), change s) := rfl

/-- A result that is there already changes nothing. -/
@[simp]
theorem run_lift (r : Except Failure α) (s : σ) :
    (liftM r : ExceptT Failure (StateM σ) α).run s = (r, s) := by
  cases r <;> rfl

theorem run_bind (x : ExceptT Failure (StateM σ) α) (f : α → ExceptT Failure (StateM σ) β) (s : σ) :
    (x >>= f).run s =
      match x.run s with
      | (.ok a, s') => (f a).run s'
      | (.error e, s') => (.error e, s') := by
  change ExceptT.bindCont f (x.run s).1 (x.run s).2 = _
  rcases x.run s with ⟨r, s'⟩
  cases r <;> rfl

theorem run_bind_ok {x : ExceptT Failure (StateM σ) α} {f : α → ExceptT Failure (StateM σ) β}
    {s s' : σ} {a : α} (h : x.run s = (.ok a, s')) : (x >>= f).run s = (f a).run s' := by
  rw [run_bind, h]

theorem run_bind_error {x : ExceptT Failure (StateM σ) α}
    {f : α → ExceptT Failure (StateM σ) β} {s s' : σ} {e : Failure}
    (h : x.run s = (.error e, s')) : (x >>= f).run s = (.error e, s') := by
  rw [run_bind, h]

end Converge.Session
