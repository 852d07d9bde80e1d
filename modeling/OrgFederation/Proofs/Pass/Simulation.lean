import OrgFederation.Proofs.Pass.Calls
import OrgFederation.Proofs.Stateful

namespace OrgFederation

variable {σ τ ε δ α β : Type}

/-- Remotes that reply alike in states that are alike, and go on to such states. -/
def Remote.Alike (alike : σ → τ → Prop) (first : Remote σ) (second : Remote τ) : Prop :=
  ∀ call state other, alike state other →
    (first.reply call state).1 = (second.reply call other).1 ∧
      alike (first.reply call state).2 (second.reply call other).2

/-- Runs that have come to the same point in states that are alike. -/
structure Trace.Alike (alike : σ → τ → Prop) (first : Trace σ) (second : Trace τ) : Prop where
  states : alike first.state second.state
  cancelled : first.cancelled = second.cancelled
  calls : first.calls = second.calls

/-- Steps that end alike from runs that are alike. -/
def PassM.Alike (alike : σ → τ → Prop) (first : PassM σ ε α) (second : PassM τ ε α) : Prop :=
  ∀ start other, start.Alike alike other →
    (first.run start).1 = (second.run other).1 ∧
      (first.run start).2.Alike alike (second.run other).2

namespace PassM.Alike

variable {alike : σ → τ → Prop}

theorem pure (value : α) :
    Alike alike (Pure.pure value : PassM σ ε α) (Pure.pure value) :=
  Stateful.Alike.pure value

theorem throw (failure : ε) :
    Alike alike (MonadExcept.throw failure : PassM σ ε α) (MonadExcept.throw failure) :=
  Stateful.Alike.throw failure

theorem bind {first : PassM σ ε α} {second : PassM τ ε α} {firstNext : α → PassM σ ε β}
    {secondNext : α → PassM τ ε β} (steps : Alike alike first second)
    (nexts : ∀ value, Alike alike (firstNext value) (secondNext value)) :
    Alike alike (first >>= firstNext) (second >>= secondNext) :=
  Stateful.Alike.bind steps nexts

/-- Failures may be renamed by anything in which runs that are alike do not differ. -/
theorem failAs {first : PassM σ ε α} {second : PassM τ ε α} {firstFailure : Trace σ → ε → δ}
    {secondFailure : Trace τ → ε → δ} (steps : Alike alike first second)
    (renamed : ∀ trace other, trace.Alike alike other → firstFailure trace = secondFailure other) :
    Alike alike (first.failAs firstFailure) (second.failAs secondFailure) := by
  intro start other runs
  obtain ⟨told, ended⟩ := steps start other runs
  rw [run_failAs, run_failAs]
  rcases ran : first.run start with ⟨result, trace⟩
  rcases beside : second.run other with ⟨same, later⟩
  rw [ran, beside] at told ended
  obtain rfl : result = same := told
  cases result with
  | error cause => exact ⟨congrArg Except.error (congrFun (renamed _ _ ended) cause), ended⟩
  | ok value => exact ⟨rfl, ended⟩

theorem failAs_const {first : PassM σ ε α} {second : PassM τ ε α} (steps : Alike alike first second)
    (failure : ε → δ) :
    Alike alike (first.failAs fun _ => failure) (second.failAs fun _ => failure) :=
  steps.failAs fun _ _ _ => rfl

variable {first : Remote σ} {second : Remote τ} (remotes : first.Alike alike second)
include remotes

/-- A call is made by both runs or by none. -/
theorem ask (call : Call) : Alike alike (first.ask call) (second.ask call) := by
  intro start other runs
  cases active : start.cancelled with
  | true =>
      rw [first.ask_run_cancelled call start active,
        second.ask_run_cancelled call other (runs.cancelled.symm.trans active)]
      exact ⟨rfl, runs⟩
  | false =>
      obtain ⟨replies, states⟩ := remotes call start.state other.state runs.states
      have quiet : other.cancelled = false := runs.cancelled.symm.trans active
      rw [first.ask_run call start active, second.ask_run call other quiet]
      refine ⟨congrArg Reply.result replies, states, ?_, ?_⟩
      · simp only [Remote.after, Trace.called, active, quiet, replies]
      · rw [Remote.after_calls, Remote.after_calls, runs.calls]

/-- All steps of passes over remotes that are alike end alike. The search for a configuration tells
from the run only whether it is cancelled. -/
def relation : PassM.Relation first second where
  Holds _ := Alike alike
  of_pure := pure
  of_throw := throw
  bind := bind
  failAs rename steps _ := steps.failAs_const rename
  search steps := steps.failAs fun trace other runs => by
    funext cause
    rw [Convergence.configFailure, Convergence.configFailure, runs.cancelled]
  ask := ask remotes

end PassM.Alike

/-- Passes over remotes that are alike end alike. -/
theorem Pass.run_alike {alike : σ → τ → Prop} {first : Remote σ} {second : Remote τ}
    (remotes : first.Alike alike second) (spec : Spec) (orgId : String) {start : Trace σ}
    {other : Trace τ} (runs : start.Alike alike other) :
    (Pass.run first spec orgId start).1 = (Pass.run second spec orgId other).1 ∧
      (Pass.run first spec orgId start).2.Alike alike (Pass.run second spec orgId other).2 := by
  cases enabled : spec.isEnabled with
  | false =>
      rw [run_disabled first orgId start enabled, run_disabled second orgId other enabled]
      exact ⟨rfl, runs⟩
  | true =>
      obtain ⟨told, ended⟩ := (PassM.Alike.relation remotes).steps spec orgId start other runs
      rw [run_enabled first orgId start enabled, run_enabled second orgId other enabled]
      rcases ran : (Convergence.steps first spec orgId).run start with ⟨result, trace⟩
      rcases beside : (Convergence.steps second spec orgId).run other with ⟨same, later⟩
      rw [ran, beside] at told ended
      obtain rfl : result = same := told
      cases result <;> exact ⟨rfl, ended⟩

end OrgFederation
