import OrgFederation.Pass.Failure
import OrgFederation.Pass.Trace

namespace OrgFederation

/-- The ids found so far. -/
abbrev ProjectIds := List (String × String)

namespace ProjectIds

def find? (ids : ProjectIds) (name : String) : Option String :=
  ids.lookup name

def keep (ids : ProjectIds) (name id : String) : ProjectIds :=
  (name, id) :: ids

end ProjectIds

/-- A failed lookup of a name; a missing project is missing in the organization. -/
def LookupError.ofApi (orgId name : String) (cause : CallError) : LookupError :=
  if cause.isNotFound then .notFound name orgId else .api name cause

/-- The id of a project, and the ids known from now on. Names are unique only within an
organization, so a project of another one counts as missing. -/
def projectId {σ : Type} (remote : Remote σ) (orgId : String) (ids : ProjectIds) (name : String) :
    PassM σ LookupError (String × ProjectIds) :=
  if name.isEmpty then
    throw .emptyName
  else
    match ids.find? name with
    | some id => pure (id, ids)
    | none => do
        let project : Project ←
          (remote.ask (.projectByName name)).failAs fun _ => LookupError.ofApi orgId name
        if project.orgId = orgId then
          return (project.id, ids.keep name project.id)
        else
          throw (.notFound name orgId)

end OrgFederation
