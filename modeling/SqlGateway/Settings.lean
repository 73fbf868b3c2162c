import SqlGateway.Failure
import SqlGateway.Text.Blank

/-! The settings of a client, where they are read from, and when they are accepted. -/
namespace SqlGateway

/-- A span of time in nanoseconds. -/
@[ext]
structure Duration where
  nanos : Nat
  deriving DecidableEq, Repr

namespace Duration

def ofMillis (millis : Nat) : Duration := ⟨millis * 1000000⟩

/-- Whole milliseconds; a count past 64 bits is the greatest one. -/
def millis (d : Duration) : UInt64 := UInt64.ofNat (min (d.nanos / 1000000) (UInt64.size - 1))

def isZero (d : Duration) : Bool := d.nanos = 0

end Duration

structure Settings where
  endpoint : String
  requestTimeout : Duration
  connectTimeout : Duration
  poolSize : UInt64
  poolIdleTimeout : Duration
  bearer : Option String
  userAgent : String
  deriving DecidableEq, Repr

namespace Settings

def default : Settings :=
  { endpoint := "http://localhost:3000/api/db/query"
    requestTimeout := .ofMillis 30000
    connectTimeout := .ofMillis 2000
    poolSize := 20
    poolIdleTimeout := .ofMillis 30000
    bearer := none
    userAgent := "shimdb/0.3.0" }

def address (s : Settings) : Except SettingsError Url.Endpoint :=
  let trimmed := Text.trim s.endpoint
  if trimmed.isEmpty then .error .emptyEndpoint
  else match Url.Endpoint.read trimmed with
    | .ok endpoint => .ok endpoint
    | .error (.unreadable reason) => .error (.endpoint reason)
    | .error (.scheme name) => .error (.scheme name)

/-- The first reason not to accept the settings, if there is one. The idle timeout of the pool may
be anything. -/
def check (s : Settings) : Except SettingsError Unit := do
  let _ ← s.address
  if s.requestTimeout.isZero then throw .zeroRequestTimeout
  if s.connectTimeout.isZero then throw .zeroConnectTimeout
  if s.poolSize = 0 then throw .zeroPool

inductive Variable where
  | endpoint
  | requestTimeout
  | connectTimeout
  | poolSize
  | poolIdleTimeout
  | bearer
  deriving DecidableEq, Repr

def Variable.name : Variable → String
  | endpoint => "SHIMDB_ENDPOINT"
  | requestTimeout => "SHIMDB_REQUEST_TIMEOUT_MS"
  | connectTimeout => "SHIMDB_CONNECT_TIMEOUT_MS"
  | poolSize => "SHIMDB_POOL_MAX_IDLE"
  | poolIdleTimeout => "SHIMDB_POOL_IDLE_TIMEOUT_MS"
  | bearer => "SHIMDB_BEARER_TOKEN"

/-- The number in a variable, blanks around it aside; none if the variable is unset. -/
def readVariable (lookup : String → Option String) (which : Variable) (kind : NumberKind) :
    Except SettingsError (Option UInt64) :=
  match lookup which.name with
  | none => .ok none
  | some text =>
    match Text.readUInt64 (Text.trim text) with
    | .ok n => .ok (some n)
    | .error reason => .error (.number which.name kind reason)

def readDuration (lookup : String → Option String) (which : Variable) (unset : Duration) :
    Except SettingsError Duration := do
  match ← readVariable lookup which .milliseconds with
  | some n => return .ofMillis n.toNat
  | none => return unset

/-- Settings from variables. The numbers are read first, in a fixed order, and the whole is
checked after that. An empty token is none. -/
def read (lookup : String → Option String) : Except SettingsError Settings := do
  let requestTimeout ← readDuration lookup .requestTimeout default.requestTimeout
  let connectTimeout ← readDuration lookup .connectTimeout default.connectTimeout
  let poolSize ← readVariable lookup .poolSize .count
  let poolIdleTimeout ← readDuration lookup .poolIdleTimeout default.poolIdleTimeout
  let settings : Settings :=
    { endpoint := (lookup Variable.endpoint.name).getD default.endpoint
      requestTimeout, connectTimeout
      poolSize := poolSize.getD default.poolSize
      poolIdleTimeout
      bearer := (lookup Variable.bearer.name).filter (!·.isEmpty)
      userAgent := default.userAgent }
  settings.check
  return settings

end Settings

end SqlGateway
