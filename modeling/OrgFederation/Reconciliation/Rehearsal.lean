import OrgFederation.Management.InMemory
import OrgFederation.Reconciliation.Run

namespace OrgFederation

/-- What a rehearsal has seen. -/
inductive RehearsalEvent where
  | connect (name : Option String)
  | patch (patch : StatusPatch)
  deriving Repr

structure Rehearsal where
  memory : InMemory
  connection : Except OperatorError String
  cancels : Bool
  patchErrors : List (Option OperatorError)
  events : List RehearsalEvent

namespace Rehearsal

/-- The memory of a rehearsal replies to the calls of a pass. -/
def remote : Remote Rehearsal where
  reply call rehearsal :=
    let (reply, memory) := InMemory.remote.reply call rehearsal.memory
    (reply, { rehearsal with memory })

def connect (resource : FederatedAuth) (rehearsal : Rehearsal) :
    Connecting Rehearsal × Rehearsal :=
  (⟨rehearsal.connection.map fun org => ⟨org, remote⟩, rehearsal.cancels⟩,
    { rehearsal with events := rehearsal.events ++ [.connect resource.metadata.name] })

/-- Each patch takes the next of the errors, and none is left to take when all have been. -/
def patchStatus (patch : StatusPatch) (rehearsal : Rehearsal) :
    Except OperatorError Unit × Rehearsal :=
  let rehearsal := { rehearsal with events := rehearsal.events ++ [RehearsalEvent.patch patch] }
  match rehearsal.patchErrors with
  | [] => (.ok (), rehearsal)
  | none :: rest => (.ok (), { rehearsal with patchErrors := rest })
  | some error :: rest => (.error error, { rehearsal with patchErrors := rest })

def surroundings : Surroundings Rehearsal := ⟨connect, patchStatus⟩

end Rehearsal

end OrgFederation
