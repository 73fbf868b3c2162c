import SqlGateway.Gateway.Client
import SqlGateway.Http.Message

/-! The transport to a gateway over HTTP. The other side is a list of connections in the order in
which they are made; when the list is used up connections are refused. -/
namespace SqlGateway.Http

inductive Connection where
  | answers (response : Response)
  /-- Takes the request and never answers. -/
  | stalls
  /-- Takes the request and hangs up. -/
  | closes
  deriving DecidableEq, Repr

structure Peer where
  connections : List Connection
  log : List Request

def unanswered : Failure := .transport "error sending request"

/-- The exchange over one connection. No other response follows one that is not final. -/
def Connection.exchange (read : Response → Except Failure α) : Connection → Exchange α
  | answers response =>
    ⟨.immediate, if isFinal response.status then read response else .error unanswered⟩
  | stalls => ⟨.never, .error unanswered⟩
  | closes => ⟨.immediate, .error unanswered⟩

namespace Sender

def ofSettings (s : Settings) : Except SettingsError Sender := do
  s.check
  let endpoint ← s.address
  if isHeaderValue s.userAgent then
    return {
      target := endpoint.target, addressable := endpoint.isAddressable
      credentials := endpoint.credentials.shown?, bearer := s.bearer, userAgent := s.userAgent }
  else throw .noHttpClient

def exchange (s : Sender) (request : Request) (read : Response → Except Failure α) (peer : Peer) :
    Exchange α × Peer :=
  if s.canSend then
    match peer.connections with
    | [] => (⟨.immediate, .error unanswered⟩, peer)
    | connection :: rest => (connection.exchange read, ⟨rest, peer.log ++ [request]⟩)
  else (⟨.immediate, .error (.transport "builder error")⟩, peer)

def transport (s : Sender) : Transport Peer where
  send peer request := s.exchange (s.queryRequest request) Response.queryOutcome peer
  health peer := s.exchange s.healthRequest Response.healthOutcome peer

end Sender

def connect (settings : Settings) (peer : Peer) : Except Failure (Client Peer) :=
  match Sender.ofSettings settings with
  | .error e => .error (.settings e)
  | .ok sender => Client.connect settings sender.transport peer

end SqlGateway.Http
