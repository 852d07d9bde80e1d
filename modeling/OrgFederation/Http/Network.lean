import OrgFederation.Http.Message
import OrgFederation.Number.Word64

namespace OrgFederation

/-- A reading of a clock that never goes back, in nanoseconds. -/
structure Instant where
  nanoseconds : Int
  deriving DecidableEq, Repr, Inhabited

namespace Instant

instance : LT Instant := ⟨fun first second => first.nanoseconds < second.nanoseconds⟩

instance (first second : Instant) : Decidable (first < second) :=
  inferInstanceAs (Decidable (first.nanoseconds < second.nanoseconds))

def nanosecondsPerSecond : Int := 1000000000

/-- The whole seconds of a reading. -/
def second (instant : Instant) : Int :=
  Int.fdiv instant.nanoseconds nanosecondsPerSecond

/-- Some whole seconds later; a clock counts seconds in words of 64 bits with a sign. -/
def after? (instant : Instant) (seconds : Nat) : Option Instant :=
  if instant.second + seconds ≤ Word64.greatestSigned then
    some ⟨instant.nanoseconds + seconds * nanosecondsPerSecond⟩
  else
    none

end Instant

namespace Http

structure Network (ω : Type) where
  openPool : ω → Except String Unit × ω
  now : ω → Instant × ω
  deliver : Request → ω → Delivery × ω

/-- What a scripted server does with a request. -/
inductive ScriptedAnswer where
  | close
  | respond (response : Response) (truncated : Bool)
  deriving Repr

/-- A server that answers from a list, and whose clock stands still. Requests that reach it are
logged; an unreachable server sees none. -/
structure Script where
  reachable : Bool
  answers : List ScriptedAnswer
  requests : List Request
  clock : Instant
  deriving Repr

namespace Script

/-- The answer once the list is used up. -/
def unscripted : Response :=
  ⟨500, Text.Utf8.encode "\x7b\"errorCode\":\"UNSCRIPTED\"\x7d"⟩

def delivery : ScriptedAnswer → Delivery
  | .close => .unanswered
  | .respond _ true => .cut
  | .respond response false => .answered response

def deliver (request : Request) (script : Script) : Delivery × Script :=
  if script.reachable then
    let script := { script with requests := script.requests ++ [request] }
    match script.answers with
    | [] => (.answered unscripted, script)
    | answer :: rest => (delivery answer, { script with answers := rest })
  else
    (.unanswered, script)

def network : Network Script where
  openPool script := (.ok (), script)
  now script := (script.clock, script)
  deliver := deliver

end Script

end Http

end OrgFederation
