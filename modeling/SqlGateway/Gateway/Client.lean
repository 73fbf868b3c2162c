import SqlGateway.Chain
import SqlGateway.Envelope
import SqlGateway.Gateway.Telemetry
import SqlGateway.Gateway.Transport
import SqlGateway.RowData

/-! A client of one gateway. Each operation takes the client and gives its answer together with the
client after it, which remembers what was handed to the transport and which events arose. -/
namespace SqlGateway

structure Client (σ : Type) where
  settings : Settings
  transport : Transport σ
  peer : σ
  hooks : List Hook
  /-- All requests handed to the transport, oldest first. -/
  sent : List QueryRequest
  /-- All events that arose, oldest first, whether anyone listened or not. -/
  emissions : List Emission

structure Dispatch where
  table : Option String
  command : String
  sql : String
  params : List Value

namespace Dispatch

def request (d : Dispatch) : QueryRequest := ⟨d.sql, d.params.map Value.wire⟩

def ofStatement (table : String) (s : Statement) : Dispatch :=
  ⟨some table, s.command.word, s.sql, s.params⟩

/-- The first word of a text in the capitals of ASCII, or nothing. -/
def firstWord (sql : String) : String :=
  String.ofList (((Text.words sql.toList).head?.getD []).map Char.toUpper)

def adHoc (sql : String) (params : List Value) : Dispatch := ⟨none, firstWord sql, sql, params⟩

def event (d : Dispatch) : Except Failure QueryOutcome → QueryEvent
  | .ok outcome => ⟨d.table, d.command, d.params.length, outcome.rowCount, true, none⟩
  | .error f => ⟨d.table, d.command, d.params.length, 0, false, some f.code⟩

end Dispatch

/-- A statement that has been sent and whose answer is on its way. -/
structure InFlight where
  dispatch : Dispatch
  settled : Settled QueryOutcome

inductive HealthReport where
  | healthy (timestamp : String)
  | unhealthy (timestamp : String) (failure : Failure)

def HealthReport.encode : HealthReport → Json
  | healthy timestamp => .obj [("status", .str "healthy"), ("timestamp", .str timestamp)]
  | unhealthy timestamp failure =>
    .obj [("status", .str "unhealthy"), ("timestamp", .str timestamp),
      ("error", .str failure.message)]

namespace Client

variable {σ : Type}

def connect (settings : Settings) (transport : Transport σ) (peer : σ) :
    Except Failure (Client σ) := do
  match settings.check with
  | .error e => .error (.settings e)
  | .ok () =>
    return { settings, transport, peer, hooks := [], sent := [], emissions := [] }

def deliveries (c : Client σ) : List Delivery := c.emissions.flatMap Emission.deliveries

def addHook (c : Client σ) (hook : Hook) : Client σ := { c with hooks := c.hooks ++ [hook] }

def start (c : Client σ) (d : Dispatch) : InFlight × Client σ :=
  let (exchange, peer) := c.transport.send c.peer d.request
  let settled := exchange.within c.settings.requestTimeout
  (⟨d, ⟨settled.elapsed, settled.outcome.map QueryOutcome.ofResponse⟩⟩,
    { c with peer, sent := c.sent ++ [d.request] })

/-- Takes the answer of a statement and tells the listeners of that moment. -/
def finish (c : Client σ) (f : InFlight) : Except Failure QueryOutcome × Client σ :=
  (f.settled.outcome,
    { c with emissions := c.emissions ++ [⟨f.dispatch.event f.settled.outcome, c.hooks⟩] })

def dispatch (c : Client σ) (d : Dispatch) : Except Failure QueryOutcome × Client σ :=
  let (inFlight, c) := c.start d
  c.finish inFlight

/-- A statement in the caller's own words, under the same limit of parameters as a chain. -/
def execute (c : Client σ) (sql : String) (params : List Value) :
    Except Failure QueryOutcome × Client σ :=
  match Query.checkParameterCount params.length with
  | .error e => (.error (.query e), c)
  | .ok () => c.dispatch (.adHoc sql params)

def query (c : Client σ) (sql : String) (params : List Value) : Envelope (List Row) × Client σ :=
  let (result, c) := c.execute sql params
  (.ofResult (result.map fun outcome => some outcome.rows), c)

def chainAnswer (chain : Chain) (s : Statement) (result : Except Failure QueryOutcome) :
    Envelope RowData :=
  .ofResult (result.map fun outcome => RowData.shape s.command chain.query.singleRow outcome.rows)

/-- Runs a chain. A chain that does not compile sends nothing. -/
def run (c : Client σ) (chain : Chain) : Envelope RowData × Chain × Client σ :=
  match chain.compile with
  | (.error e, chain) => (.err (.ofFailure (.query e)), chain, c)
  | (.ok s, chain) =>
    let (result, c) := c.dispatch (.ofStatement chain.query.table s)
    (chainAnswer chain s result, chain, c)

inductive Started where
  | rejected (answer : Envelope RowData)
  | sent (chain : Chain) (statement : Statement) (inFlight : InFlight)

def startChain (c : Client σ) (chain : Chain) : Started × Chain × Client σ :=
  match chain.compile with
  | (.error e, chain) => (.rejected (.err (.ofFailure (.query e))), chain, c)
  | (.ok s, chain) =>
    let (inFlight, c) := c.start (.ofStatement chain.query.table s)
    (.sent chain s inFlight, chain, c)

def finishChain (c : Client σ) : Started → Envelope RowData × Client σ
  | .rejected answer => (answer, c)
  | .sent chain s inFlight =>
    let (result, c) := c.finish inFlight
    (chainAnswer chain s result, c)

def Started.elapsed : Started → Duration
  | rejected _ => ⟨0⟩
  | sent _ _ inFlight => inFlight.settled.elapsed

/-- Finishes two chains in the order in which their answers come, the first one first if both
come at once. -/
def finishBoth (c : Client σ) (first second : Started) :
    Envelope RowData × Envelope RowData × Client σ :=
  if second.elapsed.nanos < first.elapsed.nanos then
    let (b, c) := c.finishChain second
    let (a, c) := c.finishChain first
    (a, b, c)
  else
    let (a, c) := c.finishChain first
    let (b, c) := c.finishChain second
    (a, b, c)

def health (c : Client σ) (now : String) : HealthReport × Client σ :=
  let (exchange, peer) := c.transport.health c.peer
  let c := { c with peer }
  match (exchange.within c.settings.requestTimeout).outcome with
  | .ok () => (.healthy now, c)
  | .error f => (.unhealthy now f, c)

end Client

end SqlGateway
