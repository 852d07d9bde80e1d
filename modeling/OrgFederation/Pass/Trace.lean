import OrgFederation.Management.Call

namespace OrgFederation

/-- What a run has come to; `calls` are in the order in which they were made. -/
structure Trace (σ : Type) where
  state : σ
  cancelled : Bool
  calls : List Call

/-- A step of a run ends with a value or a failure and moves the run on either way. -/
abbrev PassM (σ ε α : Type) := ExceptT ε (StateM (Trace σ)) α

namespace Trace

/-- A run that has made no call yet. -/
def start {σ : Type} (state : σ) (cancelled : Bool) : Trace σ :=
  ⟨state, cancelled, []⟩

/-- The run behind a call that was made. -/
def called {σ : Type} (trace : Trace σ) (call : Call) (state : σ) (cancelled : Bool) : Trace σ :=
  ⟨state, cancelled, trace.calls ++ [call]⟩

end Trace

/-- A call is made unless the run is cancelled. An answer counts even if the run is cancelled while
the call is under way. -/
def Remote.ask {σ : Type} (remote : Remote σ) (call : Call) : PassM σ CallError call.Answer :=
  ExceptT.mk fun trace =>
    if trace.cancelled then
      (.error .cancelled, trace)
    else
      match remote.reply call trace.state with
      | (.answered result cancels, state) => (result, trace.called call state cancels)
      | (.stalled, state) => (.error .cancelled, trace.called call state true)

/-- The failure of a step becomes another one, perhaps by what the run has come to. -/
def PassM.failAs {σ ε δ α : Type} (step : PassM σ ε α) (failure : Trace σ → ε → δ) :
    PassM σ δ α :=
  ExceptT.mk fun trace =>
    match step.run trace with
    | (.ok value, trace) => (.ok value, trace)
    | (.error cause, trace) => (.error (failure trace cause), trace)

end OrgFederation
