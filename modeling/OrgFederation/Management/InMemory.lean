import OrgFederation.Management.Call

namespace OrgFederation

/-- A fault meets the calls of a method, perhaps only the one of a number or of a first argument. -/
structure Fault where
  method : String
  nth : Option Nat
  argument : Option String
  cancels : Bool
  stalls : Bool
  error : Option CallError
  deriving Repr

structure InMemory where
  settings : FederationSettings
  orgConfig : ConnectedOrgConfig
  provider : IdentityProviderSettings
  projects : List (String × Project)
  conflictsOnWrite : Option (List UserConflict)
  ignoresWrites : Bool
  faults : List Fault
  counts : List (String × Nat)

namespace InMemory

/-- An organization without settings, projects and faults. -/
def blank : InMemory where
  settings := ⟨"", none, none⟩
  orgConfig := ⟨"", "", [], none, [], [], none⟩
  provider := ⟨none, none, none, []⟩
  projects := []
  conflictsOnWrite := none
  ignoresWrites := false
  faults := []
  counts := []

/-- The number of calls of a method so far. -/
def count (memory : InMemory) (method : String) : Nat :=
  (memory.counts.lookup method).getD 0

def counted (memory : InMemory) (method : String) : InMemory :=
  { memory with
    counts := (method, memory.count method + 1) ::
      memory.counts.filter fun (other, _) => other != method }

/-- A project that the service does not know is reported by its name. -/
def unknownProject (name : String) : CallError :=
  .ofResponse 404 "NOT_IN_GROUP" name

/-- What the memory answers to a call, and what it holds afterwards. -/
def serve (memory : InMemory) : (call : Call) → Except CallError call.Answer × InMemory
  | .federationSettings _ => (.ok memory.settings, memory)
  | .connectedOrgConfig _ _ => (.ok memory.orgConfig, memory)
  | .updateConnectedOrgConfig _ _ config =>
      let memory :=
        if memory.ignoresWrites then memory else { memory with orgConfig := config.stored none }
      let answer : ConnectedOrgConfig :=
        match memory.conflictsOnWrite with
        | some conflicts => { memory.orgConfig with userConflicts := some conflicts }
        | none => memory.orgConfig
      (.ok answer, memory)
  | .identityProvider _ _ => (.ok memory.provider, memory)
  | .updateIdentityProvider _ _ settings =>
      let memory :=
        if memory.ignoresWrites then memory else { memory with provider := settings }
      (.ok memory.provider, memory)
  | .projectByName name =>
      match memory.projects.lookup name with
      | some project => (.ok project, memory)
      | none => (.error (unknownProject name), memory)

def firstArgument : Call → String
  | .federationSettings org => org
  | .connectedOrgConfig settings _ => settings
  | .updateConnectedOrgConfig settings _ _ => settings
  | .identityProvider settings _ => settings
  | .updateIdentityProvider settings _ _ => settings
  | .projectByName name => name

/-- A fault meets a call unless it asks for another method, number or argument. -/
def Fault.meets (fault : Fault) (call : Call) (number : Nat) : Bool :=
  fault.method == call.method && fault.nth.all (· == number) &&
    fault.argument.all (· == firstArgument call)

/-- The first fault that meets a call decides; a failing call stores nothing. -/
def reply (call : Call) (memory : InMemory) : Reply call.Answer × InMemory :=
  let memory := memory.counted call.method
  match memory.faults.find? fun fault => Fault.meets fault call (memory.count call.method) with
  | some fault =>
      if fault.stalls then
        (.stalled, memory)
      else
        match fault.error with
        | some error => (.answered (.error error) fault.cancels, memory)
        | none =>
            let (result, memory) := memory.serve call
            (.answered result fault.cancels, memory)
  | none =>
      let (result, memory) := memory.serve call
      (.answered result false, memory)

def remote : Remote InMemory := ⟨reply⟩

end InMemory

end OrgFederation
