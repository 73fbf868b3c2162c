import SqlGateway.Query.Error
import SqlGateway.Text.Numeral
import SqlGateway.Url.Endpoint

/-! Everything that can go wrong between a call and its answer, by cause. The codes and messages
are what callers see. -/
namespace SqlGateway

inductive NumberKind where
  | milliseconds
  | count
  deriving DecidableEq, Repr

def NumberKind.demand : NumberKind → String
  | milliseconds => " must be an integer millisecond count: "
  | count => " must be a non-negative integer: "

inductive SettingsError where
  | number (name : String) (kind : NumberKind) (reason : Text.NumeralError)
  | emptyEndpoint
  | endpoint (reason : Url.Error)
  | scheme (name : String)
  | zeroRequestTimeout
  | zeroConnectTimeout
  | zeroPool
  /-- The HTTP client refuses the user agent. -/
  | noHttpClient
  /-- A fault that another party states in its own words. -/
  | stated (reason : String)
  deriving DecidableEq, Repr

def SettingsError.reason : SettingsError → String
  | number name kind reason => name ++ kind.demand ++ reason.message
  | emptyEndpoint => "endpoint must not be empty"
  | endpoint reason => "endpoint is not a valid URL: " ++ reason.message
  | scheme name => "endpoint scheme must be http or https, got " ++ name
  | zeroRequestTimeout => "request_timeout must be > 0"
  | zeroConnectTimeout => "connect_timeout must be > 0"
  | zeroPool => "pool_max_idle_per_host must be > 0"
  | noHttpClient => "failed to build http client: builder error"
  | stated reason => reason

inductive DecodeFault where
  | queryResponse
  | row
  /-- A fault that another party states in its own words. -/
  | stated (reason : String)
  deriving DecidableEq, Repr

def DecodeFault.reason : DecodeFault → String
  | queryResponse => "malformed query response"
  | row => "row decode failed"
  | stated reason => reason

inductive ErrorCode where
  | transport
  | timeout
  | backend
  | decode
  | invalidQuery
  | invalidName
  | invalidRange
  | invalidSettings
  deriving DecidableEq, Repr

def ErrorCode.name : ErrorCode → String
  | transport => "transport"
  | timeout => "timeout"
  | backend => "backend"
  | decode => "decode"
  | invalidQuery => "invalid_query"
  | invalidName => "invalid_identifier"
  | invalidRange => "invalid_range"
  | invalidSettings => "invalid_config"

inductive Failure where
  /-- No answer came. -/
  | transport (message : String)
  | timeout (milliseconds : UInt64)
  /-- The gateway answered with a failure of its own. -/
  | backend (status : UInt16) (message : String)
  | decode (fault : DecodeFault)
  | query (error : QueryError)
  | settings (error : SettingsError)
  deriving DecidableEq, Repr

namespace Failure

def message : Failure → String
  | transport message => "transport error: " ++ message
  | timeout milliseconds => "request timed out after " ++ toString milliseconds.toNat ++ "ms"
  | backend status message => "database error (" ++ toString status.toNat ++ "): " ++ message
  | decode fault => "decode error: " ++ fault.reason
  | query error => error.message
  | settings error => "invalid config: " ++ error.reason

def code : Failure → ErrorCode
  | transport _ => .transport
  | timeout _ => .timeout
  | backend _ _ => .backend
  | decode _ => .decode
  | query (.invalidName _ _) => .invalidName
  | query (.invalidRange _ _) => .invalidRange
  | query (.invalidQuery _) => .invalidQuery
  | settings _ => .invalidSettings

/-- Whether the gateway may never have seen the request. -/
def isTransport : Failure → Bool
  | transport _ => true
  | timeout _ => true
  | _ => false

def maxMessageLength : Nat := 512

/-- A text that is too long is cut and ends in three points. -/
def truncate (message : String) : String :=
  if message.length ≤ maxMessageLength then message
  else String.ofList (message.toList.take maxMessageLength) ++ "..."

end Failure

end SqlGateway
