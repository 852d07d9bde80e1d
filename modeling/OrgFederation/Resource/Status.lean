import OrgFederation.Resource.Condition

namespace OrgFederation

structure Status where
  observedGeneration : Option Int
  conditions : List Condition
  deriving DecidableEq, Repr

namespace Status

def empty : Status := ⟨none, []⟩

/-- The first condition of a type. -/
def condition? (status : Status) (type : ConditionType) : Option Condition :=
  status.conditions.find? fun condition => condition.type = type

/-- A condition takes the place of the first one of its type, or comes last. -/
def recordIn (condition : Condition) : List Condition → List Condition
  | [] => [condition]
  | held :: rest =>
      if held.type = condition.type then
        condition.succeeding held :: rest
      else
        held :: recordIn condition rest

def record (status : Status) (condition : Condition) : Status :=
  { status with conditions := recordIn condition status.conditions }

def atGeneration (status : Status) (generation : Option Int) : Status :=
  { status with observedGeneration := generation }

abbrev Parts := Option Int × List Condition × Unit

def fields : Json.Fields Parts :=
  .cons (.optional "observedGeneration" .int64) <|
  .cons (.elidedList "conditions" Condition.codec) .nil

def ofParts : Parts → Status
  | (generation, conditions, ()) =>
      ⟨generation, conditions⟩

def parts (status : Status) : Parts :=
  (status.observedGeneration, status.conditions, ())

def codec : Json.Codec Status :=
  fields.codec "FederatedAuthStatus" ofParts parts

end Status

end OrgFederation
