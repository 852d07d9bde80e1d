import OrgFederation.Proofs.Pass.Settling
import OrgFederation.Proofs.Reconciliation.Ends
import OrgFederation.Proofs.Resource.Verdict

namespace OrgFederation

variable {σ : Type}

namespace Reconciliation

/-- Reconciliations one after the other, each of what the one before it has left. -/
def inTurn (surroundings : Surroundings σ) (intervals : Intervals) (clock : Nat → Timestamp)
    (resource : FederatedAuth) (state : σ) : Nat → Reconciliation σ
  | 0 => reconcile surroundings intervals (clock 0) resource false state
  | number + 1 =>
      let before := inTurn surroundings intervals clock resource state number
      reconcile surroundings intervals (clock (number + 1)) before.resource false before.state

/-- What a reconciliation comes to before it records anything. -/
def concluded (surroundings : Surroundings σ) (resource : FederatedAuth) (state : σ) :
    Except OperatorError Outcome × Trace σ :=
  match resource.metadata.namespaceName with
  | none => (.error (namespaceMissing resource), Trace.start state false)
  | some _ => passed surroundings resource false state

/-- A reconciliation that is not cut short, and whose patch is accepted, leaves the status for its
outcome and writes it unless it is stored; an error it hands on. -/
theorem Ends.concluded {surroundings : Surroundings σ} {intervals : Intervals} {now : Timestamp}
    {resource : FederatedAuth} {state : σ} {done : Reconciliation σ}
    (ends : Ends surroundings intervals now resource false state done)
    (active : (concluded surroundings resource state).2.cancelled = false)
    (accepts : ∀ patch, (surroundings.patchStatus patch
      (concluded surroundings resource state).2.state).1 = .ok ()) :
    let ran := concluded surroundings resource state
    done.calls = ran.2.calls ∧
      (done.state = ran.2.state ∨
        ∃ patch, done.state = (surroundings.patchStatus patch ran.2.state).2) ∧
      done.result = ran.1.map (fun outcome => intervals.actionFor outcome.followUp) ∧
      (∀ error, ran.1 = .error error → done.patch = none ∧ done.resource = resource) ∧
      ∀ outcome, ran.1 = .ok outcome →
        done.resource = { resource with status := some (resource.statusAfter outcome now) } ∧
        (resource.status = some (resource.statusAfter outcome now) → done.patch = none) := by
  intro ran
  have placedRun {namespaceName : String}
      (placed : resource.metadata.namespaceName = some namespaceName) :
      ran = passed surroundings resource false state := by
    simp only [ran, Reconciliation.concluded, placed]
  cases ends with
  | unnamespaced missing =>
      have same : ran = (.error (namespaceMissing resource), Trace.start state false) := by
        simp only [ran, Reconciliation.concluded, missing]
      rw [same]
      refine ⟨rfl, .inl rfl, rfl, fun _ _ => ⟨rfl, rfl⟩, fun outcome found => ?_⟩
      cases found
  | failed placed ended =>
      rw [placedRun placed, ended]
      refine ⟨rfl, .inl rfl, rfl, fun _ _ => ⟨rfl, rfl⟩, fun outcome found => ?_⟩
      cases found
  | cut placed ended stopped =>
      have halted : ran.2.cancelled = true := by rw [placedRun placed, ended]; exact stopped
      exact absurd (active.symm.trans halted) (by decide)
  | unchanged placed ended _ same =>
      rw [placedRun placed, ended]
      refine ⟨rfl, .inl rfl, rfl, fun error found => ?_, fun outcome found => ?_⟩
      · cases found
      · cases found
        exact ⟨by rw [← same]; rfl, fun _ => rfl⟩
  | written placed ended _ differs patched =>
      rw [placedRun placed, ended]
      refine ⟨rfl, .inr ⟨_, (congrArg Prod.snd patched).symm⟩, rfl, fun error found => ?_,
        fun outcome found => ?_⟩
      · cases found
      · cases found
        exact ⟨rfl, fun same => absurd same differs⟩
  | @refused namespaceName outcome _ _ _ placed ended _ _ patched =>
      have accepted := accepts
        ⟨namespaceName, resource.metadata.anyName, resource.statusAfter outcome now⟩
      rw [show Reconciliation.concluded surroundings resource state = _ from
        (placedRun placed).trans ended, patched] at accepted
      cases accepted

end Reconciliation

/-- Surroundings are calm for a resource, over a remote that stores what it is sent, when connecting
always ends in the same way, every status patch is accepted, and neither changes what the remote
holds. -/
structure Surroundings.Calm (surroundings : Surroundings σ) {remote : Remote σ}
    (storage : Storage remote) (metadata : Metadata) (spec : Spec)
    (organization : Except OperatorError String) : Prop where
  connects : ∀ status state, storage.sound state → ∃ later,
    surroundings.connect ⟨metadata, spec, status⟩ state =
      (⟨organization.map fun orgId => ⟨orgId, remote⟩, false⟩, later) ∧
    storage.sound later ∧ storage.holdings later = storage.holdings state
  patches : ∀ patch state, storage.sound state → ∃ later,
    surroundings.patchStatus patch state = (.ok (), later) ∧
    storage.sound later ∧ storage.holdings later = storage.holdings state

namespace Surroundings.Calm

open Reconciliation

variable {surroundings : Surroundings σ} {remote : Remote σ} {storage : Storage remote}
  {metadata : Metadata} {spec : Spec} {organization : Except OperatorError String}
  (calm : surroundings.Calm storage metadata spec organization)

/-- Reconciliations find what they left, read only and come to the same, whatever the status. -/
def AtRest (surroundings : Surroundings σ) (storage : Storage remote) (metadata : Metadata)
    (spec : Spec) (held : Holdings) (ended : Except OperatorError Outcome) : Prop :=
  ∀ status state, storage.sound state → storage.holdings state = held →
    let ran := concluded surroundings ⟨metadata, spec, status⟩ state
    ran.1 = ended ∧ (∀ call ∈ ran.2.calls, call.isUpdate = false) ∧
      ran.2.cancelled = false ∧ storage.sound ran.2.state ∧ storage.holdings ran.2.state = held

include calm

/-- A reconciliation comes to an end that needs no remote, or to the outcome of a pass over it. -/
theorem concluded_cases :
    (∃ ended, ∀ status state, storage.sound state → ∃ later,
        concluded surroundings ⟨metadata, spec, status⟩ state = (ended, Trace.start later false) ∧
        storage.sound later ∧ storage.holdings later = storage.holdings state) ∨
      ∃ orgId, ∀ status state, storage.sound state → ∃ later,
        (let ran := Pass.run remote spec orgId (Trace.start later false)
        concluded surroundings ⟨metadata, spec, status⟩ state = (.ok ran.1, ran.2)) ∧
        storage.sound later ∧ storage.holdings later = storage.holdings state := by
  cases placed : metadata.namespaceName with
  | none =>
      refine .inl ⟨.error (namespaceMissing ⟨metadata, spec, none⟩), fun status state sound => ?_⟩
      exact ⟨state, by rw [concluded, placed]; rfl, sound, rfl⟩
  | some namespaceName =>
      have run (status : Option Status) (state : σ) :
          concluded surroundings ⟨metadata, spec, status⟩ state =
            passed surroundings ⟨metadata, spec, status⟩ false state := by
        rw [concluded, placed]
      cases enabled : spec.isEnabled with
      | false =>
          refine .inl ⟨.ok (.settled (some Convergence.notEnabled)), fun status state sound => ?_⟩
          refine ⟨state, ?_, sound, rfl⟩
          rw [run, passed, pass_disabled surroundings _ enabled]
      | true =>
          have trace {status : Option Status} {state later : σ}
              (connected : surroundings.connect ⟨metadata, spec, status⟩ state =
                (⟨organization.map fun orgId => ⟨orgId, remote⟩, false⟩, later)) :
              connectedTrace surroundings ⟨metadata, spec, status⟩ (Trace.start state false) =
                Trace.start later false := by
            rw [connectedTrace, Trace.start, connected]
            rfl
          cases organization with
          | ok orgId =>
              refine .inr ⟨orgId, fun status state sound => ?_⟩
              obtain ⟨later, connected, kept⟩ := calm.connects status state sound
              refine ⟨later, ?_, kept⟩
              rw [run, passed, pass_connected enabled (congrArg (·.1.result) connected),
                trace connected]
          | error error =>
              by_cases other : ∀ secret message, error ≠ .connection secret message
              · refine .inl ⟨.error error, fun status state sound => ?_⟩
                obtain ⟨later, connected, kept⟩ := calm.connects status state sound
                refine ⟨later, ?_, kept⟩
                rw [run, passed, pass_failed enabled (congrArg (·.1.result) connected) other,
                  trace connected]
              · cases error with
                | connection secret message =>
                    refine .inl ⟨.ok (secretInvalid secret message), fun status state sound => ?_⟩
                    obtain ⟨later, connected, kept⟩ := calm.connects status state sound
                    refine ⟨later, ?_, kept⟩
                    rw [run, passed, pass_unconnected enabled (congrArg (·.1.result) connected),
                      trace connected]
                | _ => exact absurd (by simp) other

/-- Whatever a reconciliation comes to, what it leaves is at rest. -/
theorem rests (status : Option Status) {state : σ} (sound : storage.sound state) :
    let left := (concluded surroundings ⟨metadata, spec, status⟩ state).2
    left.cancelled = false ∧ storage.sound left.state ∧
      ∃ ended, AtRest surroundings storage metadata spec (storage.holdings left.state) ended := by
  intro left
  rcases calm.concluded_cases with ⟨ended, same⟩ | ⟨orgId, passes⟩
  · obtain ⟨later, ran, kept, _⟩ := same status state sound
    have behind : left = Trace.start later false := congrArg Prod.snd ran
    rw [behind]
    refine ⟨rfl, kept, ended, fun other found sound held => ?_⟩
    obtain ⟨again, ran, kept, same⟩ := same other found sound
    rw [ran]
    exact ⟨rfl, by simp [Trace.start], rfl, kept, same.trans held⟩
  · obtain ⟨later, ran, kept, _⟩ := passes status state sound
    have behind : left = (Pass.run remote spec orgId (Trace.start later false)).2 :=
      congrArg Prod.snd ran
    obtain ⟨active, sound, outcome, rest⟩ := storage.rests kept spec orgId
    rw [behind]
    refine ⟨active, sound, .ok outcome, fun other found sound held => ?_⟩
    obtain ⟨again, ran, kept, same⟩ := passes other found sound
    obtain ⟨calls, trace, passed, stands, quiet⟩ := rest again kept (same.trans held)
    simp only [passed] at ran
    rw [ran]
    exact ⟨rfl, stands.made ▸ quiet, stands.active, stands.sound,
      stands.holds.trans (same.trans held)⟩

/-- What a reconciliation leaves of the resource and of the remote. -/
theorem reconciled (intervals : Intervals) (now : Timestamp) (status : Option Status) {state : σ}
    (sound : storage.sound state) :
    let resource : FederatedAuth := ⟨metadata, spec, status⟩
    let done := reconcile surroundings intervals now resource false state
    let ran := concluded surroundings resource state
    storage.sound done.state ∧ storage.holdings done.state = storage.holdings ran.2.state ∧
      done.calls = ran.2.calls ∧
      done.result = ran.1.map (fun outcome => intervals.actionFor outcome.followUp) ∧
      (∀ error, ran.1 = .error error → done.patch = none ∧ done.resource = resource) ∧
      ∀ outcome, ran.1 = .ok outcome →
        done.resource = { resource with status := some (resource.statusAfter outcome now) } ∧
        (resource.status = some (resource.statusAfter outcome now) → done.patch = none) := by
  intro resource done ran
  obtain ⟨active, left, _⟩ := calm.rests status sound
  obtain ⟨calls, behind, ended⟩ := (ends surroundings intervals now resource false state).concluded
    active fun patch => by
      obtain ⟨later, accepted, _⟩ := calm.patches patch _ left
      exact congrArg Prod.fst accepted
  have kept : storage.sound done.state ∧
      storage.holdings done.state = storage.holdings ran.2.state := by
    rcases behind with same | ⟨patch, patched⟩
    · rw [show done.state = ran.2.state from same]
      exact ⟨left, rfl⟩
    · obtain ⟨later, accepted, sound, holds⟩ := calm.patches patch _ left
      rw [show done.state = later from patched.trans (congrArg Prod.snd accepted)]
      exact ⟨sound, holds⟩
  exact ⟨kept.1, kept.2, calls, ended⟩

omit calm

/-- Behind a reconciliation at rest the remote holds what it held, and the outcome is on record. -/
structure Rested (storage : Storage remote) (intervals : Intervals) (metadata : Metadata)
    (spec : Spec) (held : Holdings) (ended : Except OperatorError Outcome)
    (done : Reconciliation σ) : Prop where
  sound : storage.sound done.state
  holds : storage.holdings done.state = held
  resource : ∃ status, done.resource = ⟨metadata, spec, status⟩ ∧ ∀ outcome, ended = .ok outcome →
    ∃ recorded, status = some recorded ∧ recorded.Records metadata.generation outcome.verdict
  reads : ∀ call ∈ done.calls, call.isUpdate = false
  result : done.result = ended.map fun outcome => intervals.actionFor outcome.followUp

include calm

/-- A reconciliation of what is at rest leaves it at rest, and it writes no status that is on record
already. -/
theorem again {held : Holdings} {ended : Except OperatorError Outcome}
    (rest : AtRest surroundings storage metadata spec held ended) (intervals : Intervals)
    (now : Timestamp) (status : Option Status) {state : σ} (sound : storage.sound state)
    (holds : storage.holdings state = held) :
    let done := reconcile surroundings intervals now ⟨metadata, spec, status⟩ false state
    Rested storage intervals metadata spec held ended done ∧
      ((∀ outcome, ended = .ok outcome → ∃ recorded, status = some recorded ∧
        recorded.Records metadata.generation outcome.verdict) → done.patch = none) := by
  intro done
  obtain ⟨same, reads, _, _, still⟩ := rest status state sound holds
  obtain ⟨kept, left, calls, result, failed, recorded⟩ := calm.reconciled intervals now status sound
  rw [same] at result failed recorded
  have quiet : ∀ call ∈ done.calls, call.isUpdate = false := by
    rw [show done.calls = _ from calls]
    exact reads
  cases ended with
  | error error =>
      obtain ⟨unwritten, resource⟩ := failed error rfl
      exact ⟨⟨kept, left.trans still, ⟨status, resource, fun _ found => by cases found⟩, quiet,
        result⟩, fun _ => unwritten⟩
  | ok outcome =>
      obtain ⟨resource, unwritten⟩ := recorded outcome rfl
      refine ⟨⟨kept, left.trans still, ⟨_, resource, fun other found => ?_⟩, quiet, result⟩,
        fun onRecord => ?_⟩
      · cases found
        exact ⟨_, rfl, FederatedAuth.statusAfter_records _ _ _⟩
      · obtain ⟨stored, rfl, records⟩ := onRecord outcome rfl
        exact unwritten (congrArg some (FederatedAuth.statusAfter_of_records rfl records now).symm)

/-- From the second reconciliation on everything is at rest, and from the third one on no status is
written. -/
theorem inTurn_rested (intervals : Intervals) (clock : Nat → Timestamp) (status : Option Status)
    {state : σ} (sound : storage.sound state) :
    let done := inTurn surroundings intervals clock ⟨metadata, spec, status⟩ state
    ∃ held ended, ∀ number, Rested storage intervals metadata spec held ended (done (number + 1)) ∧
      (done (number + 2)).patch = none := by
  intro done
  obtain ⟨kept, left, _, _, failed, recorded⟩ :=
    calm.reconciled intervals (clock 0) status sound
  obtain ⟨_, _, ended, rest⟩ := calm.rests status sound
  generalize storage.holdings (concluded surroundings ⟨metadata, spec, status⟩ state).2.state =
    held at left rest
  obtain ⟨found, resource⟩ : ∃ found, (done 0).resource = ⟨metadata, spec, found⟩ := by
    cases first : (concluded surroundings ⟨metadata, spec, status⟩ state).1 with
    | error error => exact ⟨_, (failed error first).2⟩
    | ok outcome => exact ⟨_, (recorded outcome first).1⟩
  refine ⟨held, ended, fun number => ?_⟩
  -- One reconciliation at rest makes the next one rest and write nothing.
  have next {number : Nat}
      (rested : Rested storage intervals metadata spec held ended (done (number + 1))) :
      Rested storage intervals metadata spec held ended (done (number + 2)) ∧
        (done (number + 2)).patch = none := by
    obtain ⟨stored, same, onRecord⟩ := rested.resource
    obtain ⟨further, unwritten⟩ := calm.again rest intervals (clock (number + 2)) stored
      rested.sound rested.holds
    simp only [done, inTurn] at same further unwritten ⊢
    rw [same]
    exact ⟨further, unwritten onRecord⟩
  suffices rested : Rested storage intervals metadata spec held ended (done (number + 1)) from
    ⟨rested, (next rested).2⟩
  induction number with
  | zero =>
      obtain ⟨rested, _⟩ := calm.again rest intervals (clock 1) found kept left
      simp only [done, inTurn] at resource rested ⊢
      rw [resource]
      exact rested
  | succ number ih => exact (next ih).1

end Surroundings.Calm

end OrgFederation
