import SqlGateway.Gateway.Transport

/-! A gateway that answers from a prepared list, for clients that are tried out without one. When
the list is used up every statement finds no rows and the gateway is healthy. -/
namespace SqlGateway

inductive Script.Entry where
  | query (request : QueryRequest)
  | health

structure Script where
  responses : List (Exchange QueryResponse)
  healths : List (Exchange Unit)
  log : List Script.Entry

namespace Script

/-- The first prepared answer, or the given one when none is left. -/
def next (unprepared : α) : List (Exchange α) → Exchange α × List (Exchange α)
  | [] => (⟨.immediate, .ok unprepared⟩, [])
  | e :: rest => (e, rest)

def transport : Transport Script where
  send script request :=
    let (exchange, responses) := next QueryResponse.empty script.responses
    (exchange, { script with responses, log := script.log ++ [.query request] })
  health script :=
    let (exchange, healths) := next () script.healths
    (exchange, { script with healths, log := script.log ++ [.health] })

end Script

end SqlGateway
