import OrgFederation.Deployment

namespace OrgFederation.Deployment.Round

variable {ω : Type}

/-- Resources are reconciled in order until enough status patches have been made. -/
def reconcileAll (surroundings : Surroundings ω) (intervals : Intervals) (now : Timestamp) :
    Nat → List FederatedAuth → ω → ω
  | 0, _, state => state
  | _, [], state => state
  | patches + 1, resource :: rest, state =>
      let done := reconcile surroundings intervals now resource false state
      let left := if done.patch.isSome then patches else patches + 1
      reconcileAll surroundings intervals now left rest done.state

/-- One round. -/
def run (network : Http.Network ω) (base : Url) (intervals : Intervals) (now : Timestamp)
    (watchNamespace : Option String) (patches : Nat) (resources : List FederatedAuth)
    (deployment : Deployment ω) : Deployment ω :=
  let listed := { deployment with cluster := deployment.cluster.listResources watchNamespace }
  reconcileAll (Deployment.surroundings network base) intervals now patches resources listed

end OrgFederation.Deployment.Round
