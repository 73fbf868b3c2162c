import SqlGateway.Gateway.Messages
import SqlGateway.Settings

/-! How requests reach a gateway. A transport is a deterministic peer: from its state and a request
it gives one answer, the time the answer takes, and its next state. -/
namespace SqlGateway

/-- When an answer comes, counted from the request. -/
inductive Arrival where
  | after (delay : Duration)
  | never
  deriving DecidableEq, Repr

def Arrival.immediate : Arrival := .after ⟨0⟩

structure Exchange (α : Type) where
  arrival : Arrival
  outcome : Except Failure α

structure Transport (σ : Type) where
  send : σ → QueryRequest → Exchange QueryResponse × σ
  health : σ → Exchange Unit × σ

/-- The time after which the caller goes on, and what it goes on with. -/
structure Settled (α : Type) where
  elapsed : Duration
  outcome : Except Failure α

/-- Waits no longer than the timeout. An answer that takes exactly as long still counts. -/
def Exchange.within (timeout : Duration) (e : Exchange α) : Settled α :=
  match e.arrival with
  | .after delay =>
    if timeout.nanos < delay.nanos then ⟨timeout, .error (.timeout timeout.millis)⟩
    else ⟨delay, e.outcome⟩
  | .never => ⟨timeout, .error (.timeout timeout.millis)⟩

end SqlGateway
