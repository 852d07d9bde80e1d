namespace OrgFederation.Stateful

variable {σ τ ε α β : Type}

/-- The second step starts from the state behind the first one. -/
theorem run_bind (step : ExceptT ε (StateM σ) α) (next : α → ExceptT ε (StateM σ) β) (state : σ) :
    (step >>= next).run state =
      match step.run state with
      | (.ok value, later) => (next value).run later
      | (.error failure, later) => (.error failure, later) := by
  change (ExceptT.bindCont next (step.run state).1) (step.run state).2 = _
  rcases step.run state with ⟨result, later⟩
  cases result <;> rfl

theorem run_bind_ok {step : ExceptT ε (StateM σ) α} {state later : σ} {value : α}
    (ran : step.run state = (.ok value, later)) (next : α → ExceptT ε (StateM σ) β) :
    (step >>= next).run state = (next value).run later := by
  rw [run_bind, ran]

theorem run_bind_error {step : ExceptT ε (StateM σ) α} {state later : σ} {failure : ε}
    (ran : step.run state = (.error failure, later)) (next : α → ExceptT ε (StateM σ) β) :
    (step >>= next).run state = (.error failure, later) := by
  rw [run_bind, ran]

/-- Steps that end in the same way from states that are alike, and go on to such states. -/
def Alike (alike : σ → τ → Prop) (first : ExceptT ε (StateM σ) α)
    (second : ExceptT ε (StateM τ) α) : Prop :=
  ∀ state other, alike state other →
    (first.run state).1 = (second.run other).1 ∧ alike (first.run state).2 (second.run other).2

namespace Alike

variable {alike : σ → τ → Prop}

theorem pure (value : α) :
    Alike alike (Pure.pure value : ExceptT ε (StateM σ) α) (Pure.pure value) :=
  fun _ _ states => ⟨rfl, states⟩

theorem throw (failure : ε) :
    Alike alike (MonadExcept.throw failure : ExceptT ε (StateM σ) α)
      (MonadExcept.throw failure) :=
  fun _ _ states => ⟨rfl, states⟩

theorem bind {first : ExceptT ε (StateM σ) α} {second : ExceptT ε (StateM τ) α}
    {firstNext : α → ExceptT ε (StateM σ) β} {secondNext : α → ExceptT ε (StateM τ) β}
    (steps : Alike alike first second)
    (nexts : ∀ value, Alike alike (firstNext value) (secondNext value)) :
    Alike alike (first >>= firstNext) (second >>= secondNext) := by
  intro state other states
  obtain ⟨told, ended⟩ := steps state other states
  rw [run_bind, run_bind]
  rcases ran : first.run state with ⟨result, later⟩
  rcases beside : second.run other with ⟨same, behind⟩
  rw [ran, beside] at told ended
  obtain rfl : result = same := told
  cases result with
  | error failure => exact ⟨rfl, ended⟩
  | ok value => exact nexts value later behind ended

/-- What steps read of their states may differ, as long as they go on alike with it. -/
theorem get_bind {firstNext : σ → ExceptT ε (StateM σ) β} {secondNext : τ → ExceptT ε (StateM τ) β}
    (nexts : ∀ state other, alike state other →
      Alike alike (firstNext state) (secondNext other)) :
    Alike alike (get >>= firstNext) (get >>= secondNext) :=
  fun state other states => nexts state other states state other states

/-- A change of the states tells the same and leaves them alike. -/
theorem modifyGet {firstChange : σ → α × σ} {secondChange : τ → α × τ}
    (changes : ∀ state other, alike state other → (firstChange state).1 = (secondChange other).1 ∧
      alike (firstChange state).2 (secondChange other).2) :
    Alike alike (MonadStateOf.modifyGet firstChange : ExceptT ε (StateM σ) α)
      (MonadStateOf.modifyGet secondChange) := by
  intro state other states
  obtain ⟨told, ended⟩ := changes state other states
  exact ⟨congrArg Except.ok told, ended⟩

end Alike

end OrgFederation.Stateful
