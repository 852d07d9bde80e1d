import OrgFederation.Proofs.Pass.Calls

namespace OrgFederation

variable {σ : Type}

namespace Remote

variable (remote : Remote σ)

/-- The run behind calls that a pass comes to, made or not. -/
def attempted (start : Trace σ) (calls : List Call) : Trace σ :=
  calls.foldl (fun trace call => ((remote.ask call).run trace).2) start

/-- What a pass is told about a call that it comes to behind others. -/
def attempt (start : Trace σ) (earlier : List Call) (call : Call) :
    Except CallError call.Answer :=
  ((remote.ask call).run (remote.attempted start earlier)).1

/-- The run behind a call that a pass comes to behind others. -/
theorem ask_attempted (start : Trace σ) (earlier : List Call) (call : Call) :
    (remote.ask call).run (remote.attempted start earlier) =
      (remote.attempt start earlier call, remote.attempted start (earlier ++ [call])) := by
  rw [attempted, attempted, List.foldl_append]
  rfl

/-- No call is made behind a cancellation. -/
theorem attempted_of_cancelled {start : Trace σ} (cancelled : start.cancelled = true)
    (calls : List Call) : remote.attempted start calls = start := by
  induction calls with
  | nil => rfl
  | cons call rest ih =>
      rw [attempted, List.foldl_cons, remote.ask_run_cancelled call start cancelled]
      exact ih

/-- The state of the remote behind calls depends on where the run starts by the state alone. -/
theorem follow_state (first second : Trace σ) (same : first.state = second.state)
    (calls : List Call) :
    (remote.follow first calls).state = (remote.follow second calls).state := by
  induction calls generalizing first second with
  | nil => exact same
  | cons call rest ih =>
      refine ih _ _ ?_
      rw [after_state, after_state, same]

/-- A call at the start of an active run is told as it is answered. -/
theorem attempt_first {start : Trace σ} (active : start.cancelled = false) (call : Call) :
    remote.attempt start [] call = remote.answer start.state [] call := by
  change ((remote.ask call).run start).1 = _
  rw [remote.ask_run call start active]
  rfl

/-- An active run goes on behind its first call. -/
theorem attempted_cons {start : Trace σ} (active : start.cancelled = false) (call : Call)
    (rest : List Call) :
    remote.attempted start (call :: rest) = remote.attempted (remote.after start call) rest := by
  rw [attempted, List.foldl_cons, remote.ask_run call start active]
  rfl

/-- An active run tells behind its first call what the run behind that call tells. -/
theorem attempt_cons {start : Trace σ} (active : start.cancelled = false) (first : Call)
    (earlier : List Call) (call : Call) :
    remote.attempt start (first :: earlier) call =
      remote.attempt (remote.after start first) earlier call := by
  rw [attempt, remote.attempted_cons active]
  rfl

/-- Behind the first call of a run, calls are answered as in the state that it leads to. -/
theorem answer_cons (start : Trace σ) (first : Call) (earlier : List Call) (call : Call) :
    remote.answer start.state (first :: earlier) call =
      remote.answer (remote.after start first).state earlier call :=
  congrArg (remote.result call) (remote.follow_state (remote.after (Trace.start start.state false)
    first) (Trace.start (remote.after start first).state false) rfl earlier)

/-- The calls that a pass comes to are made one after the other, and answered by the remote, until
the run is cancelled. None is made from then on. -/
theorem attempted_made (start : Trace σ) (calls : List Call) :
    ∃ made refused, calls = made ++ refused ∧
      remote.attempted start calls = remote.follow start made ∧
      (refused ≠ [] → (remote.follow start made).cancelled = true) ∧
      ∀ before call rest, made = before ++ call :: rest →
        remote.attempt start before call = remote.answer start.state before call := by
  induction calls generalizing start with
  | nil => exact ⟨[], [], rfl, rfl, by simp, by simp⟩
  | cons first rest ih =>
      cases active : start.cancelled with
      | true =>
          exact ⟨[], first :: rest, rfl, remote.attempted_of_cancelled active _, fun _ => active,
            by simp⟩
      | false =>
          obtain ⟨made, refused, rfl, behind, ended, told⟩ := ih (remote.after start first)
          refine ⟨first :: made, refused, rfl, ?_, ended, ?_⟩
          · rw [remote.attempted_cons active, behind]
            rfl
          · intro before call others divided
            cases before with
            | nil =>
                obtain ⟨rfl, _⟩ := List.cons.inj divided
                exact remote.attempt_first active first
            | cons other before =>
                obtain ⟨rfl, later⟩ := List.cons.inj divided
                rw [remote.attempt_cons active, remote.answer_cons]
                exact told before call others later

/-- When nobody cancels, every call is made and answered. -/
theorem attempt_of_calm {start : Trace σ}
    (calm : ∀ calls, (remote.follow start calls).cancelled = false) (calls : List Call) :
    remote.attempted start calls = remote.follow start calls ∧
      remote.attempt start calls = remote.answer start.state calls := by
  have all (list : List Call) : remote.attempted start list = remote.follow start list ∧
      ∀ before call rest, list = before ++ call :: rest →
        remote.attempt start before call = remote.answer start.state before call := by
    obtain ⟨made, refused, rfl, behind, ended, told⟩ := remote.attempted_made start list
    cases refused with
    | nil =>
        rw [List.append_nil] at behind ⊢
        exact ⟨behind, told⟩
    | cons call rest =>
        have cancelled := ended (List.cons_ne_nil call rest)
        rw [calm] at cancelled
        contradiction
  refine ⟨(all calls).1, ?_⟩
  funext call
  exact (all (calls ++ [call])).2 calls call [] rfl

end Remote

end OrgFederation
