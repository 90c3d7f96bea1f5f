import MemberAccess.Engine.Session

/-!
# Runs

Questions with a memo, uses of the library, measurements and actions in the object world are all
computations that carry a state and may fail, and keep what they did before they failed.  The lemmas below run them step by
step: from a run of the first part and a run of the rest to a run of the whole.
-/

namespace MemberAccess

/-! ## §1  Questions, uses of the library and measurements -/

section
variable {ε σ α β : Type} {x : ExceptT ε (StateM σ) α} {k : α → ExceptT ε (StateM σ) β}
  {s s' : σ} {a : α} {f : ε}

theorem run_pure : (pure a : ExceptT ε (StateM σ) α).run.run s = (.ok a, s) := rfl

theorem run_get : (get : ExceptT ε (StateM σ) σ).run.run s = (.ok s, s) := rfl

theorem run_set : (set s' : ExceptT ε (StateM σ) PUnit).run.run s = (.ok ⟨⟩, s') := rfl

theorem run_liftExcept (r : Except ε α) :
    (liftExcept r : ExceptT ε (StateM σ) α).run.run s = (r, s) := by
  cases r <;> rfl

/-- After a first part that succeeds the rest runs in the state that it left. -/
theorem run_bind_ok (h : x.run.run s = (.ok a, s')) :
    (x >>= k).run.run s = (k a).run.run s' := by
  rw [ExceptT.run_bind, StateT.run_bind, h]
  rfl

/-- A first part that fails is all that runs. -/
theorem run_bind_error (h : x.run.run s = (.error f, s')) :
    (x >>= k).run.run s = (.error f, s') := by
  rw [ExceptT.run_bind, StateT.run_bind, h]
  rfl

/-- A handler runs only after a failure, in the state that the failure left. -/
theorem run_tryCatch {h : ε → ExceptT ε (StateM σ) α} :
    (tryCatchThe ε x h).run.run s =
      match x.run.run s with
      | (.ok a, s') => (.ok a, s')
      | (.error f, s') => (h f).run.run s' := by
  change StateT.run (ExceptT.run (tryCatch x h)) s = _
  rw [ExceptT.run_tryCatch, StateT.run_bind]
  rcases StateT.run (ExceptT.run x) s with ⟨r, s'⟩
  cases r <;> rfl

/-- What succeeds has succeeded in its first part and in the rest. -/
theorem exists_of_run_bind {b : β} {s'' : σ} (h : (x >>= k).run.run s = (.ok b, s'')) :
    ∃ a s', x.run.run s = (.ok a, s') ∧ (k a).run.run s' = (.ok b, s'') := by
  rcases hx : x.run.run s with ⟨f | a, s'⟩
  · rw [run_bind_error hx] at h
    cases h
  · rw [run_bind_ok hx] at h
    exact ⟨a, s', rfl, h⟩

/-- What holds between the state before and after each of two parts, and passes on, holds between the state
before the first and after the second. -/
theorem rel_run_bind {R : σ → σ → Prop} (htrans : ∀ {s₁ s₂ s₃ : σ}, R s₁ s₂ → R s₂ s₃ → R s₁ s₃)
    (hx : ∀ s, R s (x.run.run s).2) (hk : ∀ a s, R s ((k a).run.run s).2) (s : σ) :
    R s ((x >>= k).run.run s).2 := by
  have hs := hx s
  rcases hrun : x.run.run s with ⟨f | a, s'⟩
  · rw [hrun] at hs
    rw [run_bind_error hrun]
    exact hs
  · rw [hrun] at hs
    rw [run_bind_ok hrun]
    exact htrans hs (hk a s')

end

/-! ## §2  Actions -/

namespace Action

variable {α β : Type} {x : Action α} {k : α → Action β} {run : Runner} {st st' : Store} {a : α}
  {f : Failure}

@[simp] theorem perform_pure : (pure a : Action α).perform run st = (.ok a, st) := rfl

@[simp] theorem perform_throw : (throw f : Action α).perform run st = (.error f, st) := rfl

@[simp] theorem perform_throwThe :
    (throwThe Failure f : Action α).perform run st = (.error f, st) := rfl

@[simp] theorem perform_fault {k : ErrorKind} :
    (fault k : Action α).perform run st = (.error (.fault k), st) := rfl

@[simp] theorem perform_get : (get : Action Store).perform run st = (.ok st, st) := rfl

@[simp] theorem perform_ofOutcome (r : Outcome α) : (ofOutcome r).perform run st = (r, st) := by
  cases r <;> rfl

/-- An action runs its first part, and the rest only if that succeeds. -/
theorem perform_bind :
    (x >>= k).perform run st =
      match x.perform run st with
      | (.ok a, st') => (k a).perform run st'
      | (.error f, st') => (.error f, st') := by
  change StateT.run (ExceptT.run (x run >>= fun a => k a run)) st = _
  rw [ExceptT.run_bind, StateT.run_bind]
  change _ = match StateT.run (ExceptT.run (x run)) st with
    | (.ok a, st') => StateT.run (ExceptT.run (k a run)) st'
    | (.error f, st') => (.error f, st')
  rcases StateT.run (ExceptT.run (x run)) st with ⟨r, st'⟩
  cases r <;> rfl

theorem perform_bind_ok (h : x.perform run st = (.ok a, st')) :
    (x >>= k).perform run st = (k a).perform run st' := by rw [perform_bind, h]

theorem perform_bind_error (h : x.perform run st = (.error f, st')) :
    (x >>= k).perform run st = (.error f, st') := by rw [perform_bind, h]

/-- An action that succeeds has succeeded in its first part and in the rest. -/
theorem exists_of_perform_bind {b : β} {st'' : Store}
    (h : (x >>= k).perform run st = (.ok b, st'')) :
    ∃ a st', x.perform run st = (.ok a, st') ∧ (k a).perform run st' = (.ok b, st'') := by
  rw [perform_bind] at h
  rcases hx : x.perform run st with ⟨f | a, st'⟩
  · rw [hx] at h
    cases h
  · rw [hx] at h
    exact ⟨a, st', rfl, h⟩

/-- Two rests that go on alike from whatever the first part gives make the same action. -/
theorem perform_bind_congr {k' : α → Action β}
    (h : ∀ a st', x.perform run st = (.ok a, st') →
      (k a).perform run st' = (k' a).perform run st') :
    (x >>= k).perform run st = (x >>= k').perform run st := by
  rw [perform_bind, perform_bind]
  rcases hx : x.perform run st with ⟨f | a, st'⟩
  · rfl
  · exact h a st' hx

/-- Looking at the store is looking at the store that there is. -/
@[simp] theorem perform_bind_get {k : Store → Action β} :
    (get >>= k).perform run st = (k st).perform run st := rfl

/-- A handler runs only after a failure, in the state that the failure left. -/
theorem perform_tryCatch {h : Failure → Action α} :
    (tryCatchThe Failure x h).perform run st =
      match x.perform run st with
      | (.ok a, st') => (.ok a, st')
      | (.error f, st') => (h f).perform run st' := by
  change StateT.run (ExceptT.run (tryCatch (x run) fun f => h f run)) st = _
  rw [ExceptT.run_tryCatch, StateT.run_bind]
  change _ = match StateT.run (ExceptT.run (x run)) st with
    | (Except.ok a, st') => (Except.ok a, st')
    | (Except.error f, st') => StateT.run (ExceptT.run (h f run)) st'
  rcases StateT.run (ExceptT.run (x run)) st with ⟨r, st'⟩
  cases r <;> rfl

end Action
end MemberAccess
