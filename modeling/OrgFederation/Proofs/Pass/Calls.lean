import OrgFederation.Proofs.Pass.Relations
import OrgFederation.Proofs.Stateful

namespace OrgFederation

variable {σ ε δ α β : Type}

namespace Reply

/-- A call that never ends fails as a cancelled one. -/
def result : Reply α → Except CallError α
  | .answered result _ => result
  | .stalled => .error .cancelled

/-- This flag tells whether the pass was cancelled while the call was under way. -/
def cancels : Reply α → Bool
  | .answered _ cancels => cancels
  | .stalled => true

end Reply

namespace Remote

/-- The result of a call that is made in a state. -/
def result (remote : Remote σ) (call : Call) (state : σ) : Except CallError call.Answer :=
  (remote.reply call state).1.result

/-- The state of the remote behind a call. -/
def next (remote : Remote σ) (call : Call) (state : σ) : σ :=
  (remote.reply call state).2

/-- A run goes on by a call, and it stays cancelled once it is. -/
def after (remote : Remote σ) (trace : Trace σ) (call : Call) : Trace σ :=
  trace.called call (remote.next call trace.state)
    (trace.cancelled || (remote.reply call trace.state).1.cancels)

/-- The run behind calls that are made one after the other. -/
def follow (remote : Remote σ) (trace : Trace σ) (calls : List Call) : Trace σ :=
  calls.foldl remote.after trace

@[simp] theorem after_calls (remote : Remote σ) (trace : Trace σ) (call : Call) :
    (remote.after trace call).calls = trace.calls ++ [call] := rfl

@[simp] theorem after_state (remote : Remote σ) (trace : Trace σ) (call : Call) :
    (remote.after trace call).state = remote.next call trace.state := rfl

@[simp] theorem follow_nil (remote : Remote σ) (trace : Trace σ) :
    remote.follow trace [] = trace := rfl

@[simp] theorem follow_cons (remote : Remote σ) (trace : Trace σ) (call : Call)
    (rest : List Call) :
    remote.follow trace (call :: rest) = remote.follow (remote.after trace call) rest := rfl

theorem follow_append (remote : Remote σ) (trace : Trace σ) (first second : List Call) :
    remote.follow trace (first ++ second) = remote.follow (remote.follow trace first) second :=
  List.foldl_append

theorem follow_calls (remote : Remote σ) (trace : Trace σ) (calls : List Call) :
    (remote.follow trace calls).calls = trace.calls ++ calls := by
  induction calls generalizing trace with
  | nil => rw [follow_nil, List.append_nil]
  | cons call rest ih => rw [follow_cons, ih, after_calls, List.append_assoc, List.singleton_append]

/-- The answer to a call that comes after others, from a state on. -/
def answer (remote : Remote σ) (state : σ) (earlier : List Call) (call : Call) :
    Except CallError call.Answer :=
  remote.result call (remote.follow (Trace.start state false) earlier).state

/-- A cancelled run makes no call. -/
theorem ask_run_cancelled (remote : Remote σ) (call : Call) (trace : Trace σ)
    (cancelled : trace.cancelled = true) :
    (remote.ask call).run trace = (.error .cancelled, trace) := by
  change (if trace.cancelled then _ else _) = _
  rw [if_pos cancelled]

/-- A run that is not cancelled makes the call and takes its result. -/
theorem ask_run (remote : Remote σ) (call : Call) (trace : Trace σ)
    (active : trace.cancelled = false) :
    (remote.ask call).run trace =
      (remote.result call trace.state, remote.after trace call) := by
  change (if trace.cancelled then _ else _) = _
  rw [if_neg (by simp [active])]
  simp only [result, after, next, active, Bool.false_or]
  rcases remote.reply call trace.state with ⟨reply, state⟩
  cases reply <;> rfl

end Remote

namespace PassM

/-- A renamed failure is renamed in the run behind the step. -/
theorem run_failAs (step : PassM σ ε α) (failure : Trace σ → ε → δ) (trace : Trace σ) :
    (step.failAs failure).run trace =
      match step.run trace with
      | (.ok value, later) => (.ok value, later)
      | (.error cause, later) => (.error (failure later cause), later) := rfl

theorem run_failAs_ok {step : PassM σ ε α} {trace later : Trace σ} {value : α}
    (ran : step.run trace = (.ok value, later)) (failure : Trace σ → ε → δ) :
    (step.failAs failure).run trace = (.ok value, later) := by
  rw [run_failAs, ran]

theorem run_failAs_error {step : PassM σ ε α} {trace later : Trace σ} {cause : ε}
    (ran : step.run trace = (.error cause, later)) (failure : Trace σ → ε → δ) :
    (step.failAs failure).run trace = (.error (failure later cause), later) := by
  rw [run_failAs, ran]

end PassM

/-- A run proceeds by calls, each of which finds it active. -/
inductive Remote.Proceeds (remote : Remote σ) : Trace σ → Trace σ → Prop where
  | still (trace : Trace σ) : remote.Proceeds trace trace
  | call {trace final : Trace σ} (call : Call) (active : trace.cancelled = false)
      (rest : remote.Proceeds (remote.after trace call) final) : remote.Proceeds trace final

namespace Remote.Proceeds

variable {remote : Remote σ} {trace later final : Trace σ}

theorem trans (first : remote.Proceeds trace later) (second : remote.Proceeds later final) :
    remote.Proceeds trace final := by
  induction first with
  | still => exact second
  | call call active _ ih => exact .call call active (ih second)

/-- A run that proceeds keeps the calls it has made. -/
theorem calls_kept (proceeds : remote.Proceeds trace final) : trace.calls <+: final.calls := by
  induction proceeds with
  | still => exact List.prefix_rfl
  | call call _ _ ih => exact (List.prefix_append _ _).trans ih

/-- The calls that a run proceeds by determine it, and none of them finds the run cancelled. -/
theorem follows (proceeds : remote.Proceeds trace final) :
    ∃ made, final.calls = trace.calls ++ made ∧ final = remote.follow trace made ∧
      ∀ before call rest, made = before ++ call :: rest →
        (remote.follow trace before).cancelled = false := by
  induction proceeds with
  | still => exact ⟨[], by simp, rfl, by simp⟩
  | @call trace final call active _ ih =>
      obtain ⟨made, calls, behind, earlier⟩ := ih
      refine ⟨call :: made, ?_, behind, ?_⟩
      · rw [calls, Remote.after_calls, List.append_assoc, List.singleton_append]
      · intro before next rest divided
        cases before with
        | nil => exact active
        | cons first before =>
            obtain ⟨rfl, remaining⟩ := List.cons.inj divided
            exact earlier before next rest remaining

end Remote.Proceeds

/-- A step proceeds when it changes every run by calls alone. -/
def PassM.ProceedsOn (step : PassM σ ε α) (remote : Remote σ) : Prop :=
  ∀ trace, remote.Proceeds trace (step.run trace).2

namespace PassM.ProceedsOn

variable {remote : Remote σ}

theorem pure (value : α) : (Pure.pure value : PassM σ ε α).ProceedsOn remote :=
  fun trace => .still trace

theorem throw (failure : ε) : (MonadExcept.throw failure : PassM σ ε α).ProceedsOn remote :=
  fun trace => .still trace

theorem bind {step : PassM σ ε α} {next : α → PassM σ ε β} (first : step.ProceedsOn remote)
    (second : ∀ value, (next value).ProceedsOn remote) : (step >>= next).ProceedsOn remote := by
  intro trace
  have moved := first trace
  rw [Stateful.run_bind]
  rcases ran : step.run trace with ⟨result, later⟩
  rw [ran] at moved
  cases result with
  | error failure => exact moved
  | ok value => exact moved.trans (second value later)

theorem failAs {step : PassM σ ε α} (proceeds : step.ProceedsOn remote)
    (failure : Trace σ → ε → δ) : (step.failAs failure).ProceedsOn remote := by
  intro trace
  have moved := proceeds trace
  rw [run_failAs]
  rcases ran : step.run trace with ⟨result, later⟩
  rw [ran] at moved
  cases result <;> exact moved

theorem ask (call : Call) : (remote.ask call).ProceedsOn remote := by
  intro trace
  cases active : trace.cancelled with
  | true => rw [remote.ask_run_cancelled call trace active]; exact .still trace
  | false => rw [remote.ask_run call trace active]; exact .call call active (.still _)

/-- All steps of a pass change its run by calls alone. -/
def relation (remote : Remote σ) : PassM.Relation remote remote where
  Holds _ step _ := step.ProceedsOn remote
  of_pure := pure
  of_throw := throw
  bind := bind
  failAs _ proceeds _ := failAs proceeds _
  search proceeds := failAs proceeds _
  ask := ask

end PassM.ProceedsOn

/-- An enabled pass is its steps. -/
theorem Pass.run_enabled (remote : Remote σ) {spec : Spec} (orgId : String) (trace : Trace σ)
    (enabled : spec.isEnabled = true) :
    Pass.run remote spec orgId trace =
      match (Convergence.steps remote spec orgId).run trace with
      | (.ok (), later) => (.settled none, later)
      | (.error failure, later) => (failure.outcome, later) := by
  unfold Pass.run
  exact if_pos enabled

/-- The run behind an enabled pass is the run behind its steps. -/
theorem Pass.run_enabled_trace (remote : Remote σ) {spec : Spec} (orgId : String)
    (trace : Trace σ) (enabled : spec.isEnabled = true) :
    (Pass.run remote spec orgId trace).2 =
      ((Convergence.steps remote spec orgId).run trace).2 := by
  rw [run_enabled remote orgId trace enabled]
  rcases (Convergence.steps remote spec orgId).run trace with ⟨result, later⟩
  cases result <;> rfl

/-- A disabled pass does nothing. -/
theorem Pass.run_disabled (remote : Remote σ) {spec : Spec} (orgId : String) (trace : Trace σ)
    (disabled : spec.isEnabled = false) :
    Pass.run remote spec orgId trace = (.settled (some Convergence.notEnabled), trace) := by
  rw [Pass.run, if_neg (by simp [disabled])]

/-- A pass changes its run by calls alone. -/
theorem Pass.run_proceeds (remote : Remote σ) (spec : Spec) (orgId : String) (trace : Trace σ) :
    remote.Proceeds trace (Pass.run remote spec orgId trace).2 := by
  cases enabled : spec.isEnabled with
  | false => rw [run_disabled remote orgId trace enabled]; exact .still trace
  | true =>
      rw [run_enabled_trace remote orgId trace enabled]
      exact (PassM.ProceedsOn.relation remote).steps spec orgId trace

end OrgFederation
