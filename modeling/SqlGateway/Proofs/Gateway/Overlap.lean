import SqlGateway.Proofs.Chain.Memo
import SqlGateway.Proofs.Gateway.Conversation
import SqlGateway.Proofs.Text.Words

/-! Calls that overlap on one client. Every call goes its way one step at a time: its statement is
sent, the reply comes or the time is up, the event arises with the listeners of that moment, they
are told one after the other, and the caller is answered. Steps of different calls come in any
order, and listeners are registered at any time between them. -/
namespace SqlGateway

/-- What a caller asks for, who names a chain by its place among the chains at hand. -/
inductive Task where
  | run (chain : Nat)
  | query (sql : String) (params : List Value)

/-- A statement that passed its checks. -/
inductive Source where
  | chain (chain : Chain) (statement : Statement)
  | adHoc (sql : String) (params : List Value)

def Answer.error? : Answer → Option EnvelopeError
  | .chain answer => answer.error
  | .rows answer => answer.error
  | _ => none

namespace Source

def table? : Source → Option String
  | chain c _ => some c.query.table
  | adHoc _ _ => none

def params : Source → List Value
  | chain _ s => s.params
  | adHoc _ params => params

/-- The word for what is done: of a text in the caller's own words its first one, with the letters
of ASCII in capitals, and nothing where there is no word in it. -/
inductive Commands : Source → String → Prop
  | chain {c : Chain} {s : Statement} : Commands (.chain c s) s.command.word
  | word {sql : String} {params : List Value} {before word rest : List Char} :
      sql.toList = before ++ (word ++ rest) → (∀ c ∈ before, Text.isBlank c = true) →
      Text.IsWord word → Text.EndsWord rest →
      Commands (.adHoc sql params) (String.ofList (word.map Char.toUpper))
  | nothing {sql : String} {params : List Value} :
      (∀ c ∈ sql.toList, Text.isBlank c = true) → Commands (.adHoc sql params) ""

def dispatch : Source → Dispatch
  | chain c s => .ofStatement c.query.table s
  | adHoc sql params => .adHoc sql params

def answer (result : Except Failure QueryOutcome) : Source → Answer
  | chain c s => .chain (Client.chainAnswer c s result)
  | adHoc _ _ => .rows (.ofResult (result.map fun outcome => some outcome.rows))

/-- The statement of a chain, or the answer of one that is rejected. -/
def ofCompiled : Except QueryError Statement × Chain → Except Answer Source
  | (.error e, _) => .error (.chain (.err (.ofFailure (.query e))))
  | (.ok s, c) => .ok (.chain c s)

end Source

namespace Task

/-- The statement of a task, or the answer to one that has none. -/
def check? (chains : List Chain) : Task → Option (Except Answer Source)
  | run i => chains[i]?.map fun chain => Source.ofCompiled chain.compile
  | query sql params =>
    match Query.checkParameterCount params.length with
    | .error e => some (.error (.rows (.err (.ofFailure (.query e)))))
    | .ok () => some (.ok (.adHoc sql params))

/-- The chains behind the check: the one that was asked for keeps its statement. -/
def after (chains : List Chain) : Task → List Chain
  | run i => chains.modify i (·.compile.2)
  | query _ _ => chains

/-- What the task is answered when nothing else goes on, and the client after it. -/
def alone? {τ : Type} (chains : List Chain) (c : Client τ) : Task → Option (Answer × Client τ)
  | run i => chains[i]?.map fun chain => (.chain (c.run chain).1, (c.run chain).2.2)
  | query sql params => some (.rows (c.query sql params).1, (c.query sql params).2)

end Task

/-- How far a call has come. -/
inductive Stage where
  | rejected (answer : Answer)
  | ready (source : Source)
  | waiting (source : Source) (inFlight : InFlight)
  | settled (source : Source) (inFlight : InFlight)
  | telling (event : QueryEvent) (pending : List Hook) (answer : Answer)
  | closed

def Stage.first : Except Answer Source → Stage
  | .error answer => rejected answer
  | .ok source => ready source

structure OpenCall where
  task : Task
  stage : Stage

inductive Occurrence where
  | registered (hook : Hook)
  | sent (call : Nat) (request : QueryRequest) (exchange : Exchange QueryResponse)
  | settled (call : Nat)
  | emitted (call : Nat) (emission : Emission)
  | delivered (call : Nat) (delivery : Delivery)
  | returned (call : Nat) (answer : Answer)

namespace Occurrence

def call? : Occurrence → Option Nat
  | registered _ => none
  | sent i _ _ => some i
  | settled i => some i
  | emitted i _ => some i
  | delivered i _ => some i
  | returned i _ => some i

def hook? : Occurrence → Option Hook
  | registered hook => some hook
  | _ => none

def request? : Occurrence → Option QueryRequest
  | sent _ request _ => some request
  | _ => none

def emission? : Occurrence → Option Emission
  | emitted _ emission => some emission
  | _ => none

/-- What a log says about one call. -/
def about (i : Nat) (log : List Occurrence) : List Occurrence := log.filter (·.call? == some i)

end Occurrence

/-- The event of a statement that is answered now, with the listeners of now. -/
def Client.emission {σ : Type} (c : Client σ) (f : InFlight) : Emission :=
  ⟨f.dispatch.event f.settled.outcome, c.hooks⟩

/-- The next step of a call. -/
def Stage.next? {σ : Type} (c : Client σ) (i : Nat) :
    Stage → Option (Occurrence × Stage × Client σ)
  | rejected answer => some (.returned i answer, closed, c)
  | ready source =>
    some (.sent i source.dispatch.request (c.transport.send c.peer source.dispatch.request).1,
      waiting source (c.start source.dispatch).1, (c.start source.dispatch).2)
  | waiting source f => some (.settled i, settled source f, c)
  | settled source f =>
    some (.emitted i (c.emission f),
      telling (c.emission f).event (c.emission f).hooks (source.answer (c.finish f).1),
      (c.finish f).2)
  | telling event (hook :: pending) answer =>
    if hook.breaks event then
      -- the break is caught, and the next listener has its turn
      some (.delivered i ⟨hook.name, event, true⟩, telling event pending answer, c)
    else some (.delivered i ⟨hook.name, event, false⟩, telling event pending answer, c)
  | telling _ [] answer => some (.returned i answer, closed, c)
  | closed => none

/-- A client with the calls that are on their way, and what has happened so far, oldest first. -/
structure Overlap (σ : Type) where
  client : Client σ
  chains : List Chain
  calls : List OpenCall
  log : List Occurrence

namespace Overlap

variable {σ : Type}

def start (client : Client σ) (chains : List Chain) : Overlap σ := ⟨client, chains, [], []⟩

inductive Label where
  | register (hook : Hook)
  | begin (task : Task)
  /-- The call at this place takes its next step. -/
  | advance (call : Nat)

def step? (s : Overlap σ) : Label → Option (Overlap σ)
  | .register hook =>
    some { s with client := s.client.addHook hook, log := s.log ++ [.registered hook] }
  | .begin task => (task.check? s.chains).map fun checked =>
    { s with chains := task.after s.chains, calls := s.calls ++ [⟨task, .first checked⟩] }
  | .advance i => s.calls[i]?.bind fun call => (call.stage.next? s.client i).map fun next =>
    { s with
      client := next.2.2, calls := s.calls.set i ⟨call.task, next.2.1⟩, log := s.log ++ [next.1] }

/-- Any interleaving of steps. -/
def run? (s : Overlap σ) (labels : List Label) : Option (Overlap σ) := labels.foldlM step? s

end Overlap

/-! ### Tasks -/

namespace Task

theorem map_compile_after (chains : List Chain) (task : Task) :
    (task.after chains).map Chain.compile = chains.map Chain.compile := by
  cases task with
  | query sql params => rfl
  | run i =>
      apply List.ext_getElem?
      intro j
      rw [after, List.getElem?_map, List.getElem?_map, List.getElem?_modify]
      cases chains[j]? with
      | none => rfl
      | some chain =>
          apply congrArg some
          by_cases hij : i = j
          · simp only [if_pos hij, chain.compile_compile]
          · simp only [if_neg hij]

/-- A check sees of the chains only what they compile to. -/
theorem check?_congr {chains others : List Chain}
    (h : chains.map Chain.compile = others.map Chain.compile) (task : Task) :
    task.check? chains = task.check? others := by
  cases task with
  | query sql params => rfl
  | run i =>
      have hcheck : ∀ list : List Chain,
          (run i).check? list = (list.map Chain.compile)[i]?.map Source.ofCompiled := by
        intro list
        rw [List.getElem?_map, Option.map_map]
        rfl
      rw [hcheck, hcheck, h]

variable {τ : Type} {chains : List Chain} {task : Task}

theorem alone?_of_error {answer : Answer} (h : task.check? chains = some (.error answer))
    (c : Client τ) : task.alone? chains c = some (answer, c) := by
  cases task with
  | run i =>
      obtain ⟨chain, hchain, hchecked⟩ := Option.map_eq_some_iff.mp h
      obtain ⟨result, kept, hcompile⟩ : ∃ result kept, chain.compile = (result, kept) :=
        ⟨_, _, rfl⟩
      rw [hcompile] at hchecked
      cases result with
      | ok s => cases hchecked
      | error e =>
          cases hchecked
          rw [alone?, hchain, Option.map_some, Client.run, hcompile]
  | query sql params =>
      rw [check?] at h
      split at h
      · next hcount =>
          cases h
          rw [alone?, Client.query, Client.execute, hcount]
          rfl
      · cases h

theorem alone?_of_ok {source : Source} (h : task.check? chains = some (.ok source))
    (c : Client τ) : task.alone? chains c =
      some (source.answer (c.dispatch source.dispatch).1, (c.dispatch source.dispatch).2) := by
  cases task with
  | run i =>
      obtain ⟨chain, hchain, hchecked⟩ := Option.map_eq_some_iff.mp h
      obtain ⟨result, kept, hcompile⟩ : ∃ result kept, chain.compile = (result, kept) :=
        ⟨_, _, rfl⟩
      rw [hcompile] at hchecked
      cases result with
      | error e => cases hchecked
      | ok s =>
          cases hchecked
          rw [alone?, hchain, Option.map_some, Client.run, hcompile]
          rfl
  | query sql params =>
      rw [check?] at h
      split at h
      · cases h
      · next hcount =>
          cases h
          rw [alone?, Client.query, Client.execute, hcount]
          rfl

end Task

theorem Task.alone?_of_reply {τ : Type} {chains : List Chain} {task : Task} {source : Source}
    (h : task.check? chains = some (.ok source)) {c : Client τ}
    {reply : Except Failure QueryResponse}
    (hreply : Reply c.settings.requestTimeout
      (c.transport.send c.peer source.dispatch.request).1 reply) :
    (task.alone? chains c).map Prod.fst =
      some (source.answer (reply.map QueryOutcome.ofResponse)) := by
  rw [alone?_of_ok h, ← hreply.within_eq]
  rfl

/-! ### Events -/

/-- What an event has to say about a statement and its answer. -/
structure QueryEvent.Tells (event : QueryEvent) (source : Source)
    (reply : Except Failure QueryResponse) (answer : Answer) : Prop where
  table : event.table = source.table?
  command : source.Commands event.command
  paramCount : event.paramCount = source.params.length
  ok : event.ok = true ↔ answer.error? = none
  error : event.error.map ErrorCode.name = answer.error?.map EnvelopeError.code
  rowCount : event.rowCount =
    match reply with
    | .ok response => response.rowCount.getD (UInt64.ofNat response.rows.length)
    | .error _ => 0

theorem Source.error?_answer (source : Source) (result : Except Failure QueryOutcome) :
    (source.answer result).error? =
      match result with
      | .ok _ => none
      | .error f => some (.ofFailure f) := by
  cases source <;> cases result <;> rfl

theorem Source.commands_firstWord (sql : String) (params : List Value) :
    (Source.adHoc sql params).Commands (Dispatch.firstWord sql) := by
  rw [Dispatch.firstWord]
  cases hwords : Text.words sql.toList with
  | nil => exact .nothing (Text.blank_of_words_eq_nil hwords)
  | cons word words =>
      obtain ⟨before, rest, hsql, hbefore, hword, hrest, -⟩ := Text.exists_of_words_eq_cons hwords
      exact .word hsql hbefore hword hrest

theorem Source.commands_dispatch (source : Source) : source.Commands source.dispatch.command := by
  cases source with
  | chain c s => exact .chain
  | adHoc sql params => exact commands_firstWord sql params

theorem Source.table_dispatch (source : Source) : source.dispatch.table = source.table? := by
  cases source <;> rfl

theorem Source.params_dispatch (source : Source) : source.dispatch.params = source.params := by
  cases source <;> rfl

theorem Source.tells_event (source : Source) (reply : Except Failure QueryResponse) :
    (source.dispatch.event (reply.map QueryOutcome.ofResponse)).Tells source reply
      (source.answer (reply.map QueryOutcome.ofResponse)) := by
  have hcount : source.dispatch.params.length = source.params.length := by
    rw [source.params_dispatch]
  cases reply with
  | ok response =>
      refine ⟨source.table_dispatch, source.commands_dispatch, hcount, ?_, ?_, rfl⟩
      · rw [source.error?_answer]
        exact ⟨fun _ => rfl, fun _ => rfl⟩
      · rw [source.error?_answer]
        rfl
  | error f =>
      refine ⟨source.table_dispatch, source.commands_dispatch, hcount, ?_, ?_, rfl⟩
      · rw [source.error?_answer]
        exact ⟨fun hok => (nomatch hok), fun hnone => (nomatch hnone)⟩
      · rw [source.error?_answer]
        rfl

/-! ### One call -/

/-- All that happens in a call whose statement is sent, from the request to the answer. -/
def Source.story (source : Source) (i : Nat) (exchange : Exchange QueryResponse)
    (event : QueryEvent) (hooks : List Hook) (answer : Answer) : List Occurrence :=
  [.sent i source.dispatch.request exchange, .settled i, .emitted i ⟨event, hooks⟩] ++
    hooks.map (fun hook => .delivered i ⟨hook.name, event, hook.breaks event⟩) ++
    [.returned i answer]

/-- A statement on its way, with the exchange that was begun for it and the reply to that. -/
structure InFlight.Carries (f : InFlight) (timeout : Duration) (source : Source)
    (exchange : Exchange QueryResponse) (reply : Except Failure QueryResponse) : Prop where
  replied : Reply timeout exchange reply
  dispatch : f.dispatch = source.dispatch
  outcome : f.settled.outcome = reply.map QueryOutcome.ofResponse

/-- What has happened in a call that has come this far. -/
inductive Stands (timeout : Duration) (i : Nat) :
    Except Answer Source → Stage → List Occurrence → Prop
  | rejected {answer : Answer} : Stands timeout i (.error answer) (.rejected answer) []
  | refused {answer : Answer} : Stands timeout i (.error answer) .closed [.returned i answer]
  | ready {source : Source} : Stands timeout i (.ok source) (.ready source) []
  | waiting {source : Source} {f : InFlight} {exchange : Exchange QueryResponse}
      {reply : Except Failure QueryResponse} : f.Carries timeout source exchange reply →
      Stands timeout i (.ok source) (.waiting source f) [.sent i source.dispatch.request exchange]
  | settled {source : Source} {f : InFlight} {exchange : Exchange QueryResponse}
      {reply : Except Failure QueryResponse} : f.Carries timeout source exchange reply →
      Stands timeout i (.ok source) (.settled source f)
        [.sent i source.dispatch.request exchange, .settled i]
  | telling {source : Source} {exchange : Exchange QueryResponse}
      {reply : Except Failure QueryResponse} {event : QueryEvent} {told pending : List Hook} :
      Reply timeout exchange reply →
      event = source.dispatch.event (reply.map QueryOutcome.ofResponse) →
      Stands timeout i (.ok source)
        (.telling event pending (source.answer (reply.map QueryOutcome.ofResponse)))
        ([.sent i source.dispatch.request exchange, .settled i,
            .emitted i ⟨event, told ++ pending⟩] ++
          told.map (fun hook => .delivered i ⟨hook.name, event, hook.breaks event⟩))
  | closed {source : Source} {exchange : Exchange QueryResponse}
      {reply : Except Failure QueryResponse} {hooks : List Hook} : Reply timeout exchange reply →
      Stands timeout i (.ok source) .closed
        (source.story i exchange (source.dispatch.event (reply.map QueryOutcome.ofResponse)) hooks
          (source.answer (reply.map QueryOutcome.ofResponse)))

theorem Stands.first {timeout : Duration} {i : Nat} (checked : Except Answer Source) :
    Stands timeout i checked (.first checked) [] := by
  cases checked with
  | error answer => exact .rejected
  | ok source => exact .ready

/-- A listener that breaks down and one that does not leave the call at the same place: the others
have their turn, and the client is as before. -/
theorem Stage.next?_telling {σ : Type} (c : Client σ) (i : Nat) (event : QueryEvent) (hook : Hook)
    (pending : List Hook) (answer : Answer) :
    (telling event (hook :: pending) answer).next? c i =
      some (.delivered i ⟨hook.name, event, hook.breaks event⟩, telling event pending answer,
        c) := by
  rw [next?]
  cases hook.breaks event <;> rfl

theorem QueryEvent.tell_cons (event : QueryEvent) (hook : Hook) (rest : List Hook) :
    event.tell (hook :: rest) = ⟨hook.name, event, hook.breaks event⟩ :: event.tell rest := by
  rw [tell]
  cases hook.breaks event <;> rfl

/-- Each step adds what it does to what has happened. -/
theorem Stands.next {σ : Type} {c c' : Client σ} {i : Nat} {checked : Except Answer Source}
    {stage stage' : Stage} {history : List Occurrence} {o : Occurrence}
    (h : Stands c.settings.requestTimeout i checked stage history)
    (hnext : stage.next? c i = some (o, stage', c')) :
    Stands c.settings.requestTimeout i checked stage' (history ++ [o]) := by
  cases h with
  | rejected =>
      cases hnext
      exact .refused
  | refused => cases hnext
  | ready =>
      cases hnext
      exact .waiting ⟨reply_within _ _, rfl, rfl⟩
  | waiting hcarries =>
      cases hnext
      exact .settled hcarries
  | @settled source f exchange reply hcarries =>
      cases hnext
      have hevent : (c.emission f).event =
          source.dispatch.event (reply.map QueryOutcome.ofResponse) := by
        rw [Client.emission, hcarries.outcome, hcarries.dispatch]
      have hresult : (c.finish f).1 = reply.map QueryOutcome.ofResponse := hcarries.outcome
      rw [hresult]
      exact @Stands.telling _ _ source exchange reply _ [] _ hcarries.replied hevent
  | @telling source exchange reply event told pending hreply hevent =>
      -- Those who are pending are told one after the other; the caller is answered when nobody is.
      cases pending with
      | cons hook pending =>
          rw [Stage.next?_telling] at hnext
          cases hnext
          have hmore : told ++ hook :: pending = (told ++ [hook]) ++ pending :=
            List.append_cons told hook pending
          have hone : [Occurrence.delivered i ⟨hook.name, event, hook.breaks event⟩] =
              [hook].map fun hook => .delivered i ⟨hook.name, event, hook.breaks event⟩ := rfl
          rw [hmore, List.append_assoc, hone, ← List.map_append]
          exact .telling hreply hevent
      | nil =>
          cases hnext
          subst hevent
          rw [List.append_nil]
          exact .closed hreply
  | closed => cases hnext

theorem Stands.story_of_ok {timeout : Duration} {i : Nat} {source : Source} {stage : Stage}
    {history : List Occurrence} (h : Stands timeout i (.ok source) stage history) :
    ∃ exchange reply hooks, Reply timeout exchange reply ∧
      history <+: source.story i exchange
        (source.dispatch.event (reply.map QueryOutcome.ofResponse)) hooks
        (source.answer (reply.map QueryOutcome.ofResponse)) ∧
      (∀ answer, .returned i answer ∈ history → history = source.story i exchange
        (source.dispatch.event (reply.map QueryOutcome.ofResponse)) hooks
        (source.answer (reply.map QueryOutcome.ofResponse))) := by
  cases h with
  | ready =>
      refine ⟨⟨.never, .error (.timeout 0)⟩, .error (.timeout timeout.millis), [], .never,
        List.nil_prefix, fun answer hmem => ?_⟩
      cases hmem
  | @waiting _ f exchange reply hcarries =>
      refine ⟨exchange, reply, [], hcarries.replied, ⟨_, rfl⟩, fun answer hmem => ?_⟩
      simp at hmem
  | @settled _ f exchange reply hcarries =>
      refine ⟨exchange, reply, [], hcarries.replied, ⟨_, rfl⟩, fun answer hmem => ?_⟩
      simp at hmem
  | @telling _ exchange reply event told pending hreply hevent =>
      refine ⟨exchange, reply, told ++ pending, hreply, ?_, fun answer hmem => ?_⟩
      · rw [Source.story, ← hevent, List.map_append, List.append_assoc, List.append_assoc,
          ← List.append_assoc _ (told.map _)]
        exact List.prefix_append _ _
      · simp at hmem
  | @closed _ exchange reply hooks hreply =>
      exact ⟨exchange, reply, hooks, hreply, List.prefix_rfl, fun _ _ => rfl⟩

theorem Stands.returned_of_closed {timeout : Duration} {i : Nat} {checked : Except Answer Source}
    {history : List Occurrence} (h : Stands timeout i checked .closed history) :
    ∃ answer, .returned i answer ∈ history := by
  cases h with
  | refused => exact ⟨_, List.mem_singleton_self _⟩
  | closed => exact ⟨_, List.mem_append_right _ (List.mem_singleton_self _)⟩

/-- How many steps a call still has to take, with this many listeners. -/
def Stage.rest (listeners : Nat) : Stage → Nat
  | rejected _ => 1
  | ready _ => listeners + 4
  | waiting _ _ => listeners + 3
  | settled _ _ => listeners + 2
  | telling _ pending _ => pending.length + 1
  | closed => 0

theorem Stage.exists_next? {σ : Type} {stage : Stage} {c : Client σ} {n : Nat}
    (h : stage.rest c.hooks.length = n + 1) (i : Nat) :
    ∃ o stage' c', stage.next? c i = some (o, stage', c') ∧ stage'.rest c'.hooks.length = n := by
  cases stage with
  | closed => cases h
  | telling event pending answer =>
      cases pending with
      | nil => exact ⟨_, _, _, rfl, Nat.succ.inj h⟩
      | cons hook pending =>
          exact ⟨_, _, _, next?_telling c i event hook pending answer, Nat.succ.inj h⟩
  | _ => exact ⟨_, _, _, rfl, Nat.succ.inj h⟩

theorem Stage.eq_closed_of_rest {stage : Stage} {listeners : Nat} (h : stage.rest listeners = 0) :
    stage = .closed := by
  cases stage with
  | closed => rfl
  | _ => cases h

namespace Overlap

variable {σ : Type}

theorem run?_cons {s s' : Overlap σ} {label : Label} (h : s.step? label = some s')
    (labels : List Label) : s.run? (label :: labels) = s'.run? labels := by
  rw [run?, List.foldlM_cons, h]
  rfl

/-- Its own steps bring a call to its end, wherever it stands. -/
theorem exists_run?_closed {s : Overlap σ} {i : Nat} {call : OpenCall}
    (hcall : s.calls[i]? = some call) :
    ∃ n s', s.run? (List.replicate n (.advance i)) = some s' ∧
      s'.calls[i]? = some ⟨call.task, .closed⟩ := by
  generalize hn : call.stage.rest s.client.hooks.length = n
  induction n generalizing s call with
  | zero =>
      refine ⟨0, s, rfl, ?_⟩
      rw [hcall, ← Stage.eq_closed_of_rest hn]
  | succ n ih =>
      obtain ⟨o, stage, c, hnext, hrest⟩ := Stage.exists_next? hn i
      let t : Overlap σ := { s with
        client := c, calls := s.calls.set i ⟨call.task, stage⟩, log := s.log ++ [o] }
      have hstep : s.step? (.advance i) = some t := by
        rw [step?, hcall, Option.bind_some, hnext]
        rfl
      have hnow : t.calls[i]? = some ⟨call.task, stage⟩ :=
        List.getElem?_set_self (List.getElem?_eq_some_iff.mp hcall).1
      obtain ⟨m, s', hrun, hclosed⟩ := ih hnow hrest
      refine ⟨m + 1, s', ?_, hclosed⟩
      rw [List.replicate_succ, run?_cons hstep, hrun]

end Overlap

/-! ### A call without others -/

namespace Overlap

variable {σ : Type}

theorem step?_advance {c c' : Client σ} {chains : List Chain} {task : Task} {stage stage' : Stage}
    {log : List Occurrence} {o : Occurrence} (h : stage.next? c 0 = some (o, stage', c')) :
    (⟨c, chains, [⟨task, stage⟩], log⟩ : Overlap σ).step? (.advance 0) =
      some ⟨c', chains, [⟨task, stage'⟩], log ++ [o]⟩ := by
  change (stage.next? c 0).map _ = _
  rw [h]
  rfl

/-- The listeners are told, and then the caller is answered. -/
theorem run?_telling (c : Client σ) (chains : List Chain) (task : Task) (event : QueryEvent)
    (pending : List Hook) (answer : Answer) (log : List Occurrence) :
    (⟨c, chains, [⟨task, .telling event pending answer⟩], log⟩ : Overlap σ).run?
        (List.replicate (pending.length + 1) (.advance 0)) =
      some ⟨c, chains, [⟨task, .closed⟩],
        log ++ (event.tell pending).map (.delivered 0) ++ [.returned 0 answer]⟩ := by
  induction pending generalizing log with
  | nil =>
      rw [List.length_nil, List.replicate_succ, run?_cons (step?_advance rfl), QueryEvent.tell,
        List.map_nil, List.append_nil]
      rfl
  | cons hook pending ih =>
      rw [List.length_cons, List.replicate_succ,
        run?_cons (step?_advance (Stage.next?_telling c 0 event hook pending answer)), ih,
        event.tell_cons, List.map_cons, List.append_assoc log, List.singleton_append]

/-- The steps of one call, with no others between them, come to what the client does for it in one
operation. -/
theorem run?_alone {client : Client σ} {chains : List Chain} {task : Task} {source : Source}
    (h : task.check? chains = some (.ok source)) :
    ∃ s answer, task.alone? chains client = some (answer, s.client) ∧
      (start client chains).run? (.begin task :: .advance 0 :: .advance 0 :: .advance 0 ::
        List.replicate (client.hooks.length + 1) (.advance 0)) = some s ∧
      s.chains = task.after chains ∧ s.log.getLast? = some (.returned 0 answer) := by
  have hbegin : (start client chains).step? (.begin task) =
      some ⟨client, task.after chains, [⟨task, .ready source⟩], []⟩ := by
    change (task.check? chains).map _ = _
    rw [h]
    rfl
  let c := (client.start source.dispatch).2
  let f := (client.start source.dispatch).1
  have htold := run?_telling (c.finish f).2 (task.after chains) task (c.emission f).event
    (c.emission f).hooks (source.answer (c.finish f).1)
    ([] ++ [.sent 0 source.dispatch.request
      (client.transport.send client.peer source.dispatch.request).1] ++ [.settled 0] ++
      [.emitted 0 (c.emission f)])
  have hcount : (c.emission f).hooks.length = client.hooks.length := rfl
  rw [hcount] at htold
  refine ⟨_, _, Task.alone?_of_ok h client, Eq.trans ?_ htold, rfl, List.getLast?_concat⟩
  rw [run?_cons hbegin, run?_cons (step?_advance rfl), run?_cons (step?_advance rfl),
    run?_cons (step?_advance rfl)]

end Overlap

end SqlGateway
