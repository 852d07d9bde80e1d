/-
This file lays a run that may be cancelled beside the run of the same remote in which nobody
cancels and every call ends.
-/

import OrgFederation.Proofs.Pass.Calls

namespace OrgFederation

variable {σ ε δ α β : Type}

/-- The same remote when nobody cancels the pass. Calls answer as they do, and a call that would
never end is completed. -/
def Remote.uninterrupted (remote : Remote σ)
    (completion : (call : Call) → σ → Except CallError call.Answer × σ) : Remote σ where
  reply call state :=
    match remote.reply call state with
    | (.answered result _, next) => (.answered result false, next)
    | (.stalled, _) => (.answered (completion call state).1 false, (completion call state).2)

/-- Two runs that are at the same point, where the second one is not cancelled. -/
structure Trace.Alongside (short whole : Trace σ) : Prop where
  state : short.state = whole.state
  calls : short.calls = whole.calls
  active : whole.cancelled = false

/-- The end of a step that may be cancelled, beside its end when it is not. -/
inductive Curtailed (early : ε → Prop) :
    Except ε α × Trace σ → Except ε α × Trace σ → Prop where
  | alike {result : Except ε α} {short whole : Trace σ} (alongside : short.Alongside whole) :
      Curtailed early (result, short) (result, whole)
  | cut {failure : ε} {short : Trace σ} {whole : Except ε α × Trace σ} (told : early failure)
      (cancelled : short.cancelled = true) (calls : short.calls <+: whole.2.calls) :
      Curtailed early (.error failure, short) whole

/-- A step that may be cancelled cuts another one short when it starts at the same point and fails
early, if at all, with one of some failures. -/
structure PassM.Curtails (remote : Remote σ) (early : ε → Prop) (short whole : PassM σ ε α) :
    Prop where
  proceeds : whole.ProceedsOn remote
  ends : ∀ first second : Trace σ, first.Alongside second →
    Curtailed early (short.run first) (whole.run second)

namespace PassM.Curtails

variable {remote : Remote σ} {early : ε → Prop}

theorem pure (value : α) : Curtails remote early (Pure.pure value) (Pure.pure value) :=
  ⟨.pure value, fun _ _ alongside => .alike alongside⟩

theorem throw (failure : ε) :
    Curtails remote early (MonadExcept.throw failure : PassM σ ε α)
      (MonadExcept.throw failure) :=
  ⟨.throw failure, fun _ _ alongside => .alike alongside⟩

theorem bind {short whole : PassM σ ε α} {shortNext wholeNext : α → PassM σ ε β}
    (first : Curtails remote early short whole)
    (second : ∀ value, Curtails remote early (shortNext value) (wholeNext value)) :
    Curtails remote early (short >>= shortNext) (whole >>= wholeNext) := by
  refine ⟨first.proceeds.bind fun value => (second value).proceeds, ?_⟩
  intro start beside alongside
  have ended := first.ends start beside alongside
  rw [Stateful.run_bind, Stateful.run_bind]
  rcases shortRan : short.run start with ⟨shortResult, shortEnd⟩
  rcases wholeRan : whole.run beside with ⟨wholeResult, wholeEnd⟩
  rw [shortRan, wholeRan] at ended
  cases ended with
  | alike alongside =>
      cases shortResult with
      | ok value => exact (second value).ends _ _ alongside
      | error failure => exact .alike alongside
  | cut told cancelled calls =>
      cases wholeResult with
      | error failure => exact .cut told cancelled calls
      | ok value =>
          exact .cut told cancelled
            (calls.trans ((second value).proceeds wholeEnd).calls_kept)

/-- Renaming failures keeps a step cut short, as long as the early failures are renamed to early
ones. -/
theorem failAs {short whole : PassM σ ε α} {later : δ → Prop}
    (curtails : Curtails remote early short whole) (rename : ε → δ)
    (renamed : ∀ failure, early failure → later (rename failure)) :
    Curtails remote later (short.failAs fun _ => rename) (whole.failAs fun _ => rename) := by
  refine ⟨curtails.proceeds.failAs _, ?_⟩
  intro start beside alongside
  have ended := curtails.ends start beside alongside
  rw [run_failAs, run_failAs]
  rcases shortRan : short.run start with ⟨shortResult, shortEnd⟩
  rcases wholeRan : whole.run beside with ⟨wholeResult, wholeEnd⟩
  rw [shortRan, wholeRan] at ended
  cases ended with
  | alike alongside => cases shortResult <;> exact .alike alongside
  | cut told cancelled calls =>
      cases wholeResult <;> exact .cut (renamed _ told) cancelled calls

/-- A search for a configuration that ends cancelled reports the cancellation, whatever else it
failed with. -/
theorem failAs_configFailure {cut : MappingError → Prop} {short whole : PassM σ MappingError α}
    (curtails : Curtails remote cut short whole) :
    Curtails remote (· = PassError.cancelled) (short.failAs Convergence.configFailure)
      (whole.failAs Convergence.configFailure) := by
  refine ⟨curtails.proceeds.failAs _, ?_⟩
  intro start beside alongside
  have ended := curtails.ends start beside alongside
  rw [run_failAs, run_failAs]
  rcases shortRan : short.run start with ⟨shortResult, shortEnd⟩
  rcases wholeRan : whole.run beside with ⟨wholeResult, wholeEnd⟩
  rw [shortRan, wholeRan] at ended
  cases ended with
  | alike alongside =>
      cases shortResult with
      | ok value => exact .alike alongside
      | error cause =>
          have wholeCause : Convergence.configFailure wholeEnd cause = .mapping cause := by
            simp [Convergence.configFailure, alongside.active]
          cases active : shortEnd.cancelled with
          | true =>
              refine .cut ?_ active (alongside.calls ▸ List.prefix_rfl)
              simp [Convergence.configFailure, active]
          | false =>
              have shortCause : Convergence.configFailure shortEnd cause = .mapping cause := by
                simp [Convergence.configFailure, active]
              simp only [wholeCause, shortCause]
              exact .alike alongside
  | cut told cancelled calls =>
      have shortCause (cause : MappingError) :
          Convergence.configFailure shortEnd cause = .cancelled := by
        simp [Convergence.configFailure, cancelled]
      cases wholeResult <;> exact .cut (shortCause _) cancelled calls

variable (remote : Remote σ)
  (completion : (call : Call) → σ → Except CallError call.Answer × σ)

/-- A call is cut short by a cancellation before it or by one that it never outlives. -/
theorem ask (call : Call) :
    Curtails (remote.uninterrupted completion) (· = CallError.cancelled) (remote.ask call)
      ((remote.uninterrupted completion).ask call) := by
  refine ⟨.ask call, ?_⟩
  intro first second alongside
  rw [Remote.ask_run _ call second alongside.active]
  cases active : first.cancelled with
  | true =>
      rw [remote.ask_run_cancelled call first active]
      refine .cut rfl active ?_
      rw [Remote.after_calls, alongside.calls]
      exact List.prefix_append _ _
  | false =>
      rw [remote.ask_run call first active]
      rcases replied : remote.reply call second.state with ⟨reply, next⟩
      cases reply with
      | answered result cancels =>
          have same : remote.result call first.state =
              (remote.uninterrupted completion).result call second.state := by
            simp only [Remote.result, Remote.uninterrupted, alongside.state, replied, Reply.result]
          rw [same]
          refine .alike ⟨?_, ?_, ?_⟩
          · simp only [Remote.after_state, Remote.next, Remote.uninterrupted, alongside.state,
              replied]
          · simp only [Remote.after_calls, alongside.calls]
          · simp only [Remote.after, Trace.called, Remote.uninterrupted, alongside.active, replied,
              Reply.cancels, Bool.or_self]
      | stalled =>
          have failed : remote.result call first.state = .error .cancelled := by
            simp only [Remote.result, alongside.state, replied, Reply.result]
          rw [failed]
          refine .cut rfl ?_ ?_
          · simp only [Remote.after, Trace.called, alongside.state, replied, Reply.cancels,
              Bool.or_true]
          · rw [Remote.after_calls, Remote.after_calls]
            exact alongside.calls ▸ List.prefix_rfl

/-- All steps of a pass that may be cancelled cut those of the uninterrupted one short. -/
def relation : PassM.Relation remote (remote.uninterrupted completion) where
  Holds := Curtails (remote.uninterrupted completion)
  of_pure := pure
  of_throw := throw
  bind := bind
  failAs rename curtails := curtails.failAs rename
  search := failAs_configFailure
  ask := ask remote completion

end PassM.Curtails

/-- The failures of a step are admitted for the run behind it. -/
def PassM.FailsOnly (step : PassM σ ε α) (admits : ε → Trace σ → Prop) : Prop :=
  ∀ trace failure later, step.run trace = (.error failure, later) → admits failure later

namespace PassM.FailsOnly

variable {admits : ε → Trace σ → Prop}

theorem pure (value : α) : FailsOnly (Pure.pure value : PassM σ ε α) admits := by
  intro trace failure later ran
  cases ran

theorem throw {failure : ε} (admitted : ∀ trace, admits failure trace) :
    FailsOnly (MonadExcept.throw failure : PassM σ ε α) admits := by
  intro trace other later ran
  cases ran
  exact admitted trace

theorem bind {step : PassM σ ε α} {next : α → PassM σ ε β} (first : step.FailsOnly admits)
    (second : ∀ value, (next value).FailsOnly admits) : (step >>= next).FailsOnly admits := by
  intro trace failure later ran
  rw [Stateful.run_bind] at ran
  rcases stepRan : step.run trace with ⟨result, middle⟩
  rw [stepRan] at ran
  cases result with
  | error cause =>
      cases ran
      exact first trace failure later stepRan
  | ok value => exact second value middle failure later ran

/-- A failure may be renamed to one that is admitted for the same run. -/
theorem failAs {step : PassM σ ε α} {renamed : δ → Trace σ → Prop} {failure : Trace σ → ε → δ}
    (fails : step.FailsOnly admits)
    (admitted : ∀ cause later, admits cause later → renamed (failure later cause) later) :
    (step.failAs failure).FailsOnly renamed := by
  intro trace other later ran
  rw [run_failAs] at ran
  rcases stepRan : step.run trace with ⟨result, middle⟩
  rw [stepRan] at ran
  cases result with
  | ok value => cases ran
  | error cause =>
      cases ran
      exact admitted cause later (fails trace cause later stepRan)

/-- Any step may fail in any way. -/
theorem any (step : PassM σ ε α) : step.FailsOnly fun _ _ => True :=
  fun _ _ _ _ => trivial

theorem settleProvider {remote : Remote σ} {admits : PassError → Trace σ → Prop}
    (asks : ∀ call,
      ((remote.ask call).failAs fun _ => PassError.ofApi .identityProvider).FailsOnly admits)
    (spec : Spec) (settingsId providerId : String) :
    (Convergence.settleProvider remote spec settingsId providerId).FailsOnly admits := by
  refine bind (asks _) fun provider => ?_
  split
  · exact pure _
  · split
    · exact pure _
    · exact bind (asks _) fun _ => pure _

end PassM.FailsOnly

/-- A remote that never calls a call cancelled leaves that to the pass. -/
def Remote.Silent (remote : Remote σ) : Prop :=
  ∀ call state next cancels, remote.reply call state ≠ (.answered (.error .cancelled) cancels, next)

/-- A failure calls a pass cancelled only when its run is cancelled. -/
def PassError.Truthful (failure : PassError) (later : Trace σ) : Prop :=
  failure = .cancelled → later.cancelled = true

namespace Remote.Silent

variable {remote : Remote σ} (silent : remote.Silent)
include silent

theorem ask (call : Call) : (remote.ask call).FailsOnly fun cause later =>
    cause = .cancelled → later.cancelled = true := by
  rintro trace cause later ran rfl
  cases active : trace.cancelled with
  | true =>
      rw [remote.ask_run_cancelled call trace active] at ran
      cases ran
      exact active
  | false =>
      rw [remote.ask_run call trace active] at ran
      obtain ⟨result, rfl⟩ := Prod.mk.inj ran
      rcases replied : remote.reply call trace.state with ⟨reply, next⟩
      cases reply with
      | answered answer cancels =>
          have told : answer = .error .cancelled := by
            simpa only [Remote.result, replied, Reply.result] using result
          exact absurd (told ▸ replied) (silent call trace.state next cancels)
      | stalled =>
          simp only [Remote.after, Trace.called, replied, Reply.cancels, Bool.or_true]

theorem ask_ofApi (call : Call) {step : CallError → PassError}
    (own : ∀ cause, step cause ≠ .cancelled) :
    ((remote.ask call).failAs fun _ => PassError.ofApi step).FailsOnly PassError.Truthful := by
  refine (silent.ask call).failAs fun cause later admitted told => ?_
  cases cause with
  | cancelled => exact admitted rfl
  | _ => exact absurd told (own _)

theorem settleConfig (settingsId orgId : String) (desired : DesiredOrgConfig)
    (observed : ConnectedOrgConfig) :
    (Convergence.settleConfig remote settingsId orgId desired observed).FailsOnly
      PassError.Truthful := by
  unfold Convergence.settleConfig
  split
  · exact .pure _
  · refine .bind (silent.ask_ofApi _ (by simp)) fun updated => ?_
    split
    · exact .pure _
    · exact .throw fun _ told => by cases told

theorem steps (spec : Spec) (orgId : String) :
    (Convergence.steps remote spec orgId).FailsOnly PassError.Truthful := by
  refine .bind (silent.ask_ofApi _ (by simp)) fun settings =>
    .bind (silent.ask_ofApi _ (by simp)) fun observed => ?_
  have searches (providerId : String) : ((desiredConfig remote orgId providerId spec).failAs
      Convergence.configFailure).FailsOnly PassError.Truthful := by
    refine (PassM.FailsOnly.any _).failAs fun cause later _ told => ?_
    cases active : later.cancelled with
    | true => rfl
    | false => simp [Convergence.configFailure, active] at told
  have rest := (searches observed.identityProviderId).bind fun desired =>
    .bind (.settleProvider (fun _ => silent.ask_ofApi _ (by simp)) spec settings.id
      observed.identityProviderId) fun _ => silent.settleConfig settings.id orgId desired observed
  split
  · exact .bind (.throw fun _ told => by cases told) fun _ => rest
  · exact rest

end Remote.Silent

namespace PassError

/-- A message that begins otherwise is not the message of a cancelled pass. -/
theorem message_ne_cancelled (detail : String) :
    "can not convert federated auth spec: " ++ detail ≠ "reconcile cancelled" ∧
      "can not reconcile identity provider settings: " ++ detail ≠ "reconcile cancelled" ∧
      "can not update federation settings: " ++ detail ≠ "reconcile cancelled" := by
  refine ⟨?_, ?_, ?_⟩ <;>
  · intro same
    have letters := congrArg (fun text => text.toList.head?) same
    simp [String.toList_append] at letters

/-- Only a cancelled pass has the outcome of one. -/
theorem outcome_eq_cancelled_iff (failure : PassError) :
    failure.outcome = .failed .internal "reconcile cancelled" ↔ failure = .cancelled := by
  constructor
  · intro same
    obtain ⟨reason, message⟩ := Outcome.failed.inj same
    cases failure with
    | mapping cause => exact absurd message (message_ne_cancelled _).1
    | identityProvider cause => exact absurd message (message_ne_cancelled _).2.1
    | update cause => exact absurd message (message_ne_cancelled _).2.2
    | cancelled => rfl
    | _ => cases reason
  · rintro rfl
    rfl

end PassError

namespace Pass

/-- A pass that is not cut short has the outcome and the calls of the whole one. -/
theorem run_curtailed (remote : Remote σ)
    (completion : (call : Call) → σ → Except CallError call.Answer × σ) (spec : Spec)
    (orgId : String) {first second : Trace σ} (alongside : first.Alongside second) :
    let short := Pass.run remote spec orgId first
    let whole := Pass.run (remote.uninterrupted completion) spec orgId second
    (short.1 = whole.1 ∧ short.2.Alongside whole.2) ∨
      (short.1 = PassError.cancelled.outcome ∧ short.2.cancelled = true ∧
        short.2.calls <+: whole.2.calls) := by
  dsimp only
  cases enabled : spec.isEnabled with
  | false =>
      rw [run_disabled remote orgId first enabled, run_disabled _ orgId second enabled]
      exact .inl ⟨rfl, alongside⟩
  | true =>
      have ended := ((PassM.Curtails.relation remote completion).steps spec orgId).ends
        first second alongside
      rw [run_enabled remote orgId first enabled, run_enabled _ orgId second enabled]
      rcases shortRan : (Convergence.steps remote spec orgId).run first with
        ⟨shortResult, shortEnd⟩
      rcases wholeRan : (Convergence.steps (remote.uninterrupted completion) spec orgId).run
        second with ⟨wholeResult, wholeEnd⟩
      rw [shortRan, wholeRan] at ended
      cases ended with
      | alike alongside => cases shortResult <;> exact .inl ⟨rfl, alongside⟩
      | cut told cancelled calls =>
          cases told
          cases wholeResult <;> exact .inr ⟨rfl, cancelled, calls⟩

/-- A remote that never calls a call cancelled is not blamed for a cancelled pass. -/
theorem cancelled_of_outcome {remote : Remote σ} (silent : remote.Silent) (spec : Spec)
    (orgId : String) (trace : Trace σ)
    (told : (Pass.run remote spec orgId trace).1 = .failed .internal "reconcile cancelled") :
    (Pass.run remote spec orgId trace).2.cancelled = true := by
  cases enabled : spec.isEnabled with
  | false =>
      rw [run_disabled remote orgId trace enabled] at told
      cases told
  | true =>
      have only := silent.steps spec orgId trace
      rw [run_enabled remote orgId trace enabled] at told ⊢
      rcases ran : (Convergence.steps remote spec orgId).run trace with ⟨result, later⟩
      rw [ran] at told
      cases result with
      | ok _ => cases told
      | error failure =>
          have cancelled := (PassError.outcome_eq_cancelled_iff failure).mp told
          exact only failure later ran cancelled

/-- Cancelling a pass only cuts it short. Whenever the cancellation comes, the pass makes the calls
and has the outcome of the pass that nobody cancels, or it reports the cancellation after some of
those calls. No call finds the pass cancelled, and a cancelled outcome is due to a cancellation. -/
theorem cancellation_only_cuts_short (remote : Remote σ)
    (completion : (call : Call) → σ → Except CallError call.Answer × σ) (spec : Spec)
    (orgId : String) (state : σ) (cancelled : Bool) :
    let start := Trace.start state cancelled
    let short := Pass.run remote spec orgId start
    let whole := Pass.run (remote.uninterrupted completion) spec orgId (Trace.start state false)
    (short.2.calls = whole.2.calls ∧ short.1 = whole.1 ∨
      short.1 = .failed .internal "reconcile cancelled" ∧ short.2.calls <+: whole.2.calls) ∧
    short.2 = remote.follow start short.2.calls ∧
    (∀ before call rest, short.2.calls = before ++ call :: rest →
      (remote.follow start before).cancelled = false) ∧
    (remote.Silent → short.1 = .failed .internal "reconcile cancelled" →
      short.2.cancelled = true) := by
  intro start short whole
  obtain ⟨made, calls, behind, active⟩ := (run_proceeds remote spec orgId start).follows
  have same : short.2.calls = made := calls
  refine ⟨?_, ?_, ?_, ?_⟩
  · rcases run_curtailed remote completion spec orgId
        (⟨rfl, rfl, rfl⟩ : start.Alongside (Trace.start state false)) with
      ⟨outcome, alongside⟩ | ⟨outcome, _, earlier⟩
    · exact .inl ⟨alongside.calls, outcome⟩
    · exact .inr ⟨outcome, earlier⟩
  · rw [same]
    exact behind
  · rw [same]
    exact active
  · intro silent told
    exact cancelled_of_outcome silent spec orgId start told

/-- A remote that knows one linked organization and never ends the reading of its provider. -/
def stallingRemote : Remote Unit where
  reply
    | .federationSettings _, state => (.answered (.ok ⟨"settings", none, none⟩) false, state)
    | .connectedOrgConfig _ orgId, state =>
        (.answered (.ok ⟨orgId, "provider", [], none, [], [], none⟩) false, state)
    | _, state => (.stalled, state)

theorem stallingRemote_silent : stallingRemote.Silent := by
  intro call state next cancels
  cases call <;> simp [stallingRemote]

/-- This declaration sets the debug flag, so its pass reads the provider. -/
def debuggingSpec : Spec :=
  ⟨some true, ⟨"secret", none⟩, ["example.com"], none, some true, [], []⟩

/-- A pass that the remote stalls reports a cancellation, and it was cancelled. -/
theorem cancellation_only_cuts_short_stalling :
    let short := Pass.run stallingRemote debuggingSpec "org" (Trace.start () false)
    stallingRemote.Silent ∧ short.1 = .failed .internal "reconcile cancelled" ∧
      short.2.cancelled = true := by
  have told : (Pass.run stallingRemote debuggingSpec "org" (Trace.start () false)).1 =
      .failed .internal "reconcile cancelled" := by decide
  have whole := cancellation_only_cuts_short stallingRemote
    (fun _ state => (.error (.transport "connection reset"), state)) debuggingSpec "org" () false
  exact ⟨stallingRemote_silent, told, whole.2.2.2 stallingRemote_silent told⟩

end Pass

end OrgFederation
