import SqlGateway.Gateway.Client
import SqlGateway.Proofs.Query.Acceptance

/-! What one operation of a client asks of the transport and what it answers. A client contacts its
transport at most once, and the rest of an answer follows from what came back in time. -/
namespace SqlGateway

variable {σ α : Type}

inductive Contact where
  | request (r : QueryRequest)
  | health

def Contact.request? : Contact → Option QueryRequest
  | request r => some r
  | health => none

/-- The other side after it was contacted. -/
def Transport.after (t : Transport σ) (peer : σ) : Contact → σ
  | .request r => (t.send peer r).2
  | .health => (t.health peer).2

/-- What a caller who waits no longer than the timeout takes from an exchange. -/
inductive Reply (timeout : Duration) : Exchange α → Except Failure α → Prop
  | inTime {delay : Duration} {outcome : Except Failure α} : delay.nanos ≤ timeout.nanos →
      Reply timeout ⟨.after delay, outcome⟩ outcome
  | late {delay : Duration} {outcome : Except Failure α} : timeout.nanos < delay.nanos →
      Reply timeout ⟨.after delay, outcome⟩ (.error (.timeout timeout.millis))
  | never {outcome : Except Failure α} :
      Reply timeout ⟨.never, outcome⟩ (.error (.timeout timeout.millis))

theorem reply_within (timeout : Duration) (e : Exchange α) :
    Reply timeout e (e.within timeout).outcome := by
  obtain ⟨arrival, outcome⟩ := e
  cases arrival with
  | never => exact .never
  | after delay =>
      by_cases hlate : timeout.nanos < delay.nanos
      · simp only [Exchange.within, if_pos hlate]
        exact .late hlate
      · simp only [Exchange.within, if_neg hlate]
        exact .inTime (Nat.le_of_not_lt hlate)

theorem Reply.within_eq {timeout : Duration} {e : Exchange α} {r : Except Failure α}
    (h : Reply timeout e r) : (e.within timeout).outcome = r := by
  cases h with
  | inTime hle => simp only [Exchange.within, if_neg (Nat.not_lt.mpr hle)]
  | late hlt => simp only [Exchange.within, if_pos hlt]
  | never => rfl

/-- The answers that a chain may have: why it was rejected, why its statement failed, or what the
rows that came back make of it. -/
inductive ChainAnswer (timeout : Duration) (exchange : QueryRequest → Exchange QueryResponse)
    (chain : Chain) : Envelope RowData → Prop
  | rejected {e : QueryError} : chain.compile.1 = .error e →
      ChainAnswer timeout exchange chain ⟨none, some ⟨(Failure.query e).code.name, e.message⟩⟩
  | failed {s : Statement} {f : Failure} : chain.compile.1 = .ok s →
      Reply timeout (exchange ⟨s.sql, s.params.map Value.wire⟩) (.error f) →
      ChainAnswer timeout exchange chain ⟨none, some ⟨f.code.name, f.message⟩⟩
  | first {s : Statement} {response : QueryResponse} {row : Row} {rest : List Row} :
      chain.compile.1 = .ok s → chain.query.singleRow = true ∨ s.command = .insert →
      Reply timeout (exchange ⟨s.sql, s.params.map Value.wire⟩) (.ok response) →
      response.rows = row :: rest → ChainAnswer timeout exchange chain ⟨some (.row row), none⟩
  | nothing {s : Statement} {response : QueryResponse} :
      chain.compile.1 = .ok s → chain.query.singleRow = true ∨ s.command = .insert →
      Reply timeout (exchange ⟨s.sql, s.params.map Value.wire⟩) (.ok response) →
      response.rows = [] → ChainAnswer timeout exchange chain ⟨none, none⟩
  | all {s : Statement} {response : QueryResponse} :
      chain.compile.1 = .ok s → ¬ (chain.query.singleRow = true ∨ s.command = .insert) →
      Reply timeout (exchange ⟨s.sql, s.params.map Value.wire⟩) (.ok response) →
      ChainAnswer timeout exchange chain ⟨some (.rows response.rows), none⟩

/-- The answers that a statement in the caller's own words may have. -/
inductive QueryAnswer (timeout : Duration) (exchange : QueryRequest → Exchange QueryResponse)
    (sql : String) (params : List Value) : Envelope (List Row) → Prop
  | rejected : 65535 < params.length →
      QueryAnswer timeout exchange sql params ⟨none, some ⟨"invalid_query",
        "invalid query: statement binds " ++ toString params.length ++
          " parameters, maximum is 65535"⟩⟩
  | failed {f : Failure} : params.length ≤ 65535 →
      Reply timeout (exchange ⟨sql, params.map Value.wire⟩) (.error f) →
      QueryAnswer timeout exchange sql params ⟨none, some ⟨f.code.name, f.message⟩⟩
  | rows {response : QueryResponse} : params.length ≤ 65535 →
      Reply timeout (exchange ⟨sql, params.map Value.wire⟩) (.ok response) →
      QueryAnswer timeout exchange sql params ⟨some response.rows, none⟩

inductive HealthAnswer (timeout : Duration) (exchange : Exchange Unit) (now : String) :
    HealthReport → Prop
  | healthy : Reply timeout exchange (.ok ()) →
      HealthAnswer timeout exchange now (.healthy now)
  | unhealthy {f : Failure} : Reply timeout exchange (.error f) →
      HealthAnswer timeout exchange now (.unhealthy now f)

theorem Failure.message_parameterCount (count : Nat) :
    (query (.invalidQuery (.parameterCount count))).message =
      "invalid query: statement binds " ++ toString count ++ " parameters, maximum is 65535" := by
  have hmessage : (query (.invalidQuery (.parameterCount count))).message =
      "invalid query: " ++ ("statement binds " ++ toString count ++
        " parameters, maximum is " ++ toString maxParameters) := rfl
  have hmax : toString maxParameters = "65535" := by decide
  have hhead : "invalid query: statement binds " = "invalid query: " ++ "statement binds " := by
    decide
  have htail : " parameters, maximum is 65535" = " parameters, maximum is " ++ "65535" := by decide
  rw [hmessage, hmax, hhead, htail]
  simp only [String.append_assoc]

theorem RowData.shape_of_one {command : Command} {single : Bool} {all : List Row}
    (h : single = true ∨ command = .insert) : shape command single all = all.head?.map row := by
  simp [shape, h]

theorem RowData.shape_of_all {command : Command} {single : Bool} {all : List Row}
    (h : ¬ (single = true ∨ command = .insert)) : shape command single all = some (rows all) := by
  simp [shape, h]

theorem Chain.compile_query (c : Chain) : c.compile.2.query = c.query := by
  unfold Chain.compile
  split
  · rfl
  · split <;> rfl

/-- What running a chain asks of the transport. -/
def Chain.contact? (c : Chain) : Option Contact :=
  match c.compile.1 with
  | .ok s => some (.request ⟨s.sql, s.params.map Value.wire⟩)
  | .error _ => none

/-- What a statement in the caller's own words asks of the transport. -/
def Query.contact? (sql : String) (params : List Value) : Option Contact :=
  if params.length ≤ 65535 then some (.request ⟨sql, params.map Value.wire⟩) else none

namespace Client

/-- The client after it contacted its transport as told by the trace, whatever its listeners were
told on the way. -/
structure Contacted (c : Client σ) (trace : List Contact) (c' : Client σ) : Prop where
  settings : c'.settings = c.settings
  transport : c'.transport = c.transport
  sent : c'.sent = c.sent ++ trace.filterMap Contact.request?
  peer : c'.peer = trace.foldl c.transport.after c.peer

theorem Contacted.refl (c : Client σ) : c.Contacted [] c :=
  ⟨rfl, rfl, (List.append_nil _).symm, rfl⟩

theorem Contacted.trans {c c' c'' : Client σ} {first second : List Contact}
    (h : c.Contacted first c') (h' : c'.Contacted second c'') :
    c.Contacted (first ++ second) c'' where
  settings := h'.settings.trans h.settings
  transport := h'.transport.trans h.transport
  sent := by rw [h'.sent, h.sent, List.filterMap_append, List.append_assoc]
  peer := by rw [h'.peer, h.peer, h.transport, List.foldl_append]

variable (c : Client σ)

/-- A statement is sent once. -/
theorem contacted_dispatch (d : Dispatch) :
    c.Contacted [.request d.request] (c.dispatch d).2 := ⟨rfl, rfl, rfl, rfl⟩

theorem reply_dispatch (d : Dispatch) :
    ∃ reply, Reply c.settings.requestTimeout (c.transport.send c.peer d.request).1 reply ∧
      (c.dispatch d).1 = reply.map QueryOutcome.ofResponse :=
  ⟨_, reply_within _ _, rfl⟩

/-! ### Chains -/

theorem run_eq (chain : Chain) : c.run chain =
    match chain.compile.1 with
    | .error e => (.err (.ofFailure (.query e)), chain.compile.2, c)
    | .ok s =>
      (chainAnswer chain.compile.2 s (c.dispatch (.ofStatement chain.compile.2.query.table s)).1,
        chain.compile.2, (c.dispatch (.ofStatement chain.compile.2.query.table s)).2) := by
  unfold run
  obtain ⟨result, chain'⟩ := chain.compile
  cases result <;> rfl

theorem chain_run (chain : Chain) : (c.run chain).2.1 = chain.compile.2 := by
  cases h : chain.compile.1 with
  | error e => rw [run_eq, h]
  | ok s => rw [run_eq, h]

/-- A chain that compiles sends its statement once, and one that is rejected sends nothing. -/
theorem contacted_run (chain : Chain) :
    c.Contacted chain.contact?.toList (c.run chain).2.2 := by
  cases h : chain.compile.1 with
  | error e =>
      rw [run_eq, Chain.contact?, h]
      exact .refl c
  | ok s =>
      rw [run_eq, Chain.contact?, h]
      exact c.contacted_dispatch (.ofStatement chain.compile.2.query.table s)

theorem chainAnswer_run (chain : Chain) :
    ChainAnswer c.settings.requestTimeout (fun r => (c.transport.send c.peer r).1) chain
      (c.run chain).1 := by
  cases h : chain.compile.1 with
  | error e =>
      rw [run_eq, h]
      exact .rejected h
  | ok s =>
      obtain ⟨reply, hreply, hresult⟩ :=
        c.reply_dispatch (.ofStatement chain.compile.2.query.table s)
      rw [run_eq, h]
      dsimp only
      rw [hresult]
      cases reply with
      | error f => exact .failed h hreply
      | ok response =>
          change ChainAnswer _ _ _
            ⟨RowData.shape s.command chain.compile.2.query.singleRow response.rows, none⟩
          rw [chain.compile_query]
          by_cases hone : chain.query.singleRow = true ∨ s.command = .insert
          · rw [RowData.shape_of_one hone]
            cases hrows : response.rows with
            | nil => exact .nothing h hone hreply hrows
            | cons row rest => exact .first h hone hreply hrows
          · rw [RowData.shape_of_all hone]
            exact .all h hone hreply

/-! ### Statements in the caller's own words, and the health of the gateway -/

theorem query_of_le {sql : String} {params : List Value} (h : params.length ≤ 65535) :
    c.query sql params =
      (.ofResult ((c.dispatch (.adHoc sql params)).1.map fun outcome => some outcome.rows),
        (c.dispatch (.adHoc sql params)).2) := by
  rw [query, execute, Query.checkParameterCount_eq_ok_iff.mpr h]

theorem query_of_lt {sql : String} {params : List Value} (h : 65535 < params.length) :
    c.query sql params =
      (.err (.ofFailure (.query (.invalidQuery (.parameterCount params.length)))), c) := by
  have hcheck : Query.checkParameterCount params.length =
      .error (.invalidQuery (.parameterCount params.length)) := if_pos h
  rw [query, execute, hcheck]
  rfl

/-- A statement is sent once, unless it has too many parameters to be sent at all. -/
theorem contacted_query (sql : String) (params : List Value) :
    c.Contacted (Query.contact? sql params).toList (c.query sql params).2 := by
  by_cases h : params.length ≤ 65535
  · rw [c.query_of_le h, Query.contact?, if_pos h]
    exact c.contacted_dispatch (.adHoc sql params)
  · rw [c.query_of_lt (Nat.lt_of_not_le h), Query.contact?, if_neg h]
    exact .refl c

theorem queryAnswer_query (sql : String) (params : List Value) :
    QueryAnswer c.settings.requestTimeout (fun r => (c.transport.send c.peer r).1) sql params
      (c.query sql params).1 := by
  by_cases h : params.length ≤ 65535
  · obtain ⟨reply, hreply, hresult⟩ := c.reply_dispatch (.adHoc sql params)
    rw [c.query_of_le h, hresult]
    cases reply with
    | error f => exact .failed h hreply
    | ok response => exact .rows h hreply
  · rw [c.query_of_lt (Nat.lt_of_not_le h), Envelope.err, EnvelopeError.ofFailure,
      Failure.message_parameterCount]
    exact .rejected (Nat.lt_of_not_le h)

theorem health_eq (now : String) : ∃ report,
    HealthAnswer c.settings.requestTimeout (c.transport.health c.peer).1 now report ∧
      c.health now = (report, { c with peer := (c.transport.health c.peer).2 }) := by
  have hreply := reply_within c.settings.requestTimeout (c.transport.health c.peer).1
  cases hout : ((c.transport.health c.peer).1.within c.settings.requestTimeout).outcome with
  | ok _ =>
      rw [hout] at hreply
      exact ⟨.healthy now, .healthy hreply, by simp only [health, hout]⟩
  | error f =>
      rw [hout] at hreply
      exact ⟨.unhealthy now f, .unhealthy hreply, by simp only [health, hout]⟩

theorem contacted_health (now : String) : c.Contacted [.health] (c.health now).2 := by
  obtain ⟨report, -, hhealth⟩ := c.health_eq now
  rw [hhealth]
  exact ⟨rfl, rfl, (List.append_nil _).symm, rfl⟩

theorem healthAnswer_health (now : String) :
    HealthAnswer c.settings.requestTimeout (c.transport.health c.peer).1 now
      (c.health now).1 := by
  obtain ⟨report, hanswer, hhealth⟩ := c.health_eq now
  rw [hhealth]
  exact hanswer

end Client

end SqlGateway
