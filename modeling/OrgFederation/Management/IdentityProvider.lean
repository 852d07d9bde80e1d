import OrgFederation.Json.Record

namespace OrgFederation

structure IdentityProviderSettings where
  id : Option String
  displayName : Option String
  ssoDebugEnabled : Option Bool
  other : Members
  deriving Repr, Inhabited

namespace IdentityProviderSettings

abbrev Parts := Option String × Option String × Option Bool × Unit

/-- The managed fields. -/
def fields : Json.Fields Parts :=
  .cons (.optional "id" .text) <|
  .cons (.optional "displayName" .text) <|
  .cons (.optional "ssoDebugEnabled" .flag) .nil

/-- An entry is a managed field or one of the others, of which the last of a name counts. -/
def decodeEntries (depth : Nat) :
    Json.Entries → fields.Draft → Members → Except Json.DecodeError IdentityProviderSettings
  | .closed, draft, other =>
      (fields.finish draft).map fun (id, displayName, debug, ()) => ⟨id, displayName, debug, other⟩
  | .broken fault, _, _ => .error (.malformed fault)
  | .entry name node rest, draft, other => do
      let name ← name.mapError .malformed
      match fields.store depth name node draft with
      | some stored => do
          let draft ← stored
          decodeEntries depth rest draft other
      | none => do
          let value ← node.decodeValue depth
          decodeEntries depth rest draft (other.insert name value)

def codec : Json.Codec IdentityProviderSettings where
  decode depth := fun
    | .object entries => Json.entering depth fun depth =>
        decodeEntries depth entries fields.blank []
    | node => .error (node.mismatch "struct IdentityProviderSettings")
  encode settings :=
    .object (fields.encode (settings.id, settings.displayName, settings.ssoDebugEnabled, ()) ++
      settings.other)

end IdentityProviderSettings

end OrgFederation
