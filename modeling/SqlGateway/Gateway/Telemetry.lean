import SqlGateway.Failure
import SqlGateway.Gateway.Messages

/-! What listeners learn about every statement that was sent. -/
namespace SqlGateway

structure QueryEvent where
  /-- The table of a chain; none for a statement in the caller's own words. -/
  table : Option String
  command : String
  paramCount : Nat
  rowCount : UInt64
  ok : Bool
  error : Option ErrorCode
  deriving DecidableEq, Repr

/-- A listener, and the events at which it breaks down. -/
structure Hook where
  name : String
  breaks : QueryEvent → Bool

structure Delivery where
  hook : String
  event : QueryEvent
  broken : Bool
  deriving DecidableEq, Repr

/-- An event with the listeners of the moment at which it arose. -/
structure Emission where
  event : QueryEvent
  hooks : List Hook

def QueryEvent.tell (event : QueryEvent) : List Hook → List Delivery
  | [] => []
  | hook :: rest =>
    if hook.breaks event then
      -- the break is caught, and the next listener has its turn
      ⟨hook.name, event, true⟩ :: event.tell rest
    else ⟨hook.name, event, false⟩ :: event.tell rest

def Emission.deliveries (e : Emission) : List Delivery := e.event.tell e.hooks

end SqlGateway
