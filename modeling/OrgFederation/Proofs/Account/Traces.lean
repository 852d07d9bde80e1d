import OrgFederation.Http.Network

namespace OrgFederation.Http

variable {ω : Type}

/-- A request and what became of it. -/
structure Exchange where
  request : Request
  delivery : Delivery
  deriving DecidableEq, Repr

/-- What a network sees: a reading of its clock, or a request and what became of it. -/
inductive Event where
  | reading (time : Instant)
  | exchange (exchange : Exchange)
  deriving DecidableEq, Repr

def Event.exchange? : Event → Option Exchange
  | .exchange sent => some sent
  | .reading _ => none

/-- The requests among some events. -/
def exchanges (events : List Event) : List Exchange :=
  events.filterMap Event.exchange?

@[simp]
theorem exchanges_append (first second : List Event) :
    exchanges (first ++ second) = exchanges first ++ exchanges second :=
  List.filterMap_append

namespace Network

/-- The same network, in which every request is noted with what became of it. -/
def recorded (network : Network ω) : Network (ω × List Exchange) where
  openPool state := ((network.openPool state.1).1, ((network.openPool state.1).2, state.2))
  now state := ((network.now state.1).1, ((network.now state.1).2, state.2))
  deliver request state :=
    let (delivery, next) := network.deliver request state.1
    (delivery, (next, state.2 ++ [⟨request, delivery⟩]))

/-- The same network, which notes all that it sees. -/
def observed (network : Network ω) : Network (ω × List Event) where
  openPool state := ((network.openPool state.1).1, ((network.openPool state.1).2, state.2))
  now state :=
    let (time, next) := network.now state.1
    (time, (next, state.2 ++ [.reading time]))
  deliver request state :=
    let (delivery, next) := network.deliver request state.1
    (delivery, (next, state.2 ++ [.exchange ⟨request, delivery⟩]))

/-- A network goes from one state to another, and these are the events on its way. -/
inductive Goes (network : Network ω) : ω → List Event → ω → Prop
  | still {state : ω} : Goes network state [] state
  | read {state next last : ω} {time : Instant} {events : List Event}
      (now : network.now state = (time, next)) (rest : Goes network next events last) :
      Goes network state (.reading time :: events) last
  | deliver {state next last : ω} {request : Request} {delivery : Delivery} {events : List Event}
      (delivered : network.deliver request state = (delivery, next))
      (rest : Goes network next events last) :
      Goes network state (.exchange ⟨request, delivery⟩ :: events) last

namespace Goes

theorem trans {network : Network ω} {start middle last : ω} {first second : List Event}
    (goes : Goes network start first middle) (further : Goes network middle second last) :
    Goes network start (first ++ second) last := by
  induction goes with
  | still => exact further
  | read now rest ih => exact .read now (ih further)
  | deliver delivered rest ih => exact .deliver delivered (ih further)

/-- A network that notes its requests has noted those on its way. -/
theorem recorded {network : Network ω} {start last : ω × List Exchange} {events : List Event}
    (goes : Goes network.recorded start events last) : last.2 = start.2 ++ exchanges events := by
  induction goes with
  | still => exact (List.append_nil _).symm
  | read now rest ih =>
      cases now
      exact ih
  | deliver delivered rest ih =>
      cases delivered
      rw [ih]
      exact List.append_assoc _ _ _

/-- A network that notes what it sees has noted all of it. -/
theorem observed {network : Network ω} {start last : ω × List Event} {events : List Event}
    (goes : Goes network.observed start events last) : last.2 = start.2 ++ events := by
  induction goes with
  | still => exact (List.append_nil _).symm
  | read now rest ih =>
      cases now
      rw [ih]
      exact List.append_assoc _ _ _
  | deliver delivered rest ih =>
      cases delivered
      rw [ih]
      exact List.append_assoc _ _ _

end Goes

end Network

end OrgFederation.Http
