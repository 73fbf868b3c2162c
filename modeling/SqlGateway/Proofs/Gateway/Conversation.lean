import SqlGateway.Account
import SqlGateway.Procedure
import SqlGateway.Storage
import SqlGateway.Proofs.Gateway.Contact

/-! All that a caller may do with one client, in any order and number. What reaches the transport is
told by the actions alone: each run of a chain that compiles and each statement with few enough
parameters is one request, and nothing else is. -/
namespace SqlGateway

/-- How the answer of a chain is asked for. -/
inductive Use where
  | execute
  -- A caller gives an awaited chain up; here it could be used again.
  | await
  | data
  | error

/-- A question that is answered without asking the gateway. -/
inductive Question where
  | procedure (now name : String) (params : Json)
  | session
  | user
  | signOut
  | secondFactor (factor : Account.SecondFactor)
  | subscribe
  | storage (bucket : Bucket) (operation : Bucket.Operation)

/-- One action of a caller, who knows a chain by its place among all chains opened. -/
inductive Action where
  | openChain (table : String)
  | call (chain : Nat) (link : Chain.Call)
  | compile (chain : Nat)
  | run (chain : Nat) (use : Use)
  | query (sql : String) (params : List Value)
  | health (now : String)
  | addHook (hook : Hook)
  | askLocally (question : Question)

inductive Answer where
  | done
  | compiled (result : Except QueryError Statement)
  | chain (answer : Envelope RowData)
  | data (data : Option RowData)
  | error (error : Option EnvelopeError)
  | rows (answer : Envelope (List Row))
  | health (report : HealthReport)
  | row (answer : Envelope Row)
  | session (answer : Envelope SessionData)
  | user (answer : Envelope UserData)
  | signedOut (answer : ErrorEnvelope)
  | subscription (answer : Envelope Account.Subscription)
  | json (answer : Envelope Json)

def Use.read (answer : Envelope RowData) : Use → Answer
  | execute => .chain answer
  | await => .chain answer
  | data => .data answer.data
  | error => .error answer.error

def Question.answer : Question → Answer
  | procedure now name params => .row (Procedure.call now name params)
  | session => .session Account.session
  | user => .user Account.user
  | signOut => .signedOut Account.signOut
  | secondFactor factor => .json (Account.secondFactor factor)
  | subscribe => .subscription Account.subscribe
  | storage bucket operation => .json (bucket.perform operation)

/-- A client and the chains that were opened with it, oldest first. -/
structure Conversation (σ : Type) where
  client : Client σ
  chains : List Chain

namespace Conversation

variable {σ : Type}

/-- An action on a chain that was never opened does nothing. -/
def step (s : Conversation σ) : Action → Answer × Conversation σ
  | .openChain table => (.done, { s with chains := s.chains ++ [.ofTable table] })
  | .call i link => (.done, { s with chains := s.chains.modify i (·.call link) })
  | .compile i =>
    match s.chains[i]? with
    | some chain =>
      let (result, chain) := chain.compile
      (.compiled result, { s with chains := s.chains.set i chain })
    | none => (.done, s)
  | .run i use =>
    match s.chains[i]? with
    | some chain =>
      let (answer, chain, client) := s.client.run chain
      (use.read answer, { client, chains := s.chains.set i chain })
    | none => (.done, s)
  | .query sql params =>
    let (answer, client) := s.client.query sql params
    (.rows answer, { s with client })
  | .health now =>
    let (report, client) := s.client.health now
    (.health report, { s with client })
  | .addHook hook => (.done, { s with client := s.client.addHook hook })
  | .askLocally question => (question.answer, s)

def run (s : Conversation σ) : List Action → List Answer × Conversation σ
  | [] => ([], s)
  | action :: actions =>
    let (answer, s) := s.step action
    let (answers, s) := s.run actions
    (answer :: answers, s)

end Conversation

namespace Action

/-- The chains after an action. -/
def after (chains : List Chain) : Action → List Chain
  | .openChain table => chains ++ [.ofTable table]
  | .call i link => chains.modify i (·.call link)
  | .compile i => chains.modify i (·.compile.2)
  | .run i _ => chains.modify i (·.compile.2)
  | _ => chains

/-- What an action asks of the transport. -/
def contact? (chains : List Chain) : Action → Option Contact
  | .run i _ => chains[i]?.bind Chain.contact?
  | .query sql params => Query.contact? sql params
  | .health _ => some .health
  | _ => none

/-- What may be answered to an action, by what the other side makes of it. -/
def Answered {σ : Type} (timeout : Duration) (t : Transport σ) (peer : σ) (chains : List Chain) :
    Action → Answer → Prop
  | .run i use, answer => ∀ chain, chains[i]? = some chain →
    ∃ envelope, ChainAnswer timeout (fun r => (t.send peer r).1) chain envelope ∧
      answer = use.read envelope
  | .query sql params, answer =>
    ∃ envelope, QueryAnswer timeout (fun r => (t.send peer r).1) sql params envelope ∧
      answer = .rows envelope
  | .health now, answer =>
    ∃ report, HealthAnswer timeout (t.health peer).1 now report ∧ answer = .health report
  | .askLocally question, answer => answer = question.answer
  | _, _ => True

/-- All that a list of actions asks of the transport, in order. -/
def trace (chains : List Chain) : List Action → List Contact
  | [] => []
  | action :: actions => (action.contact? chains).toList ++ trace (action.after chains) actions

/-- What may be answered to a list of actions, one after the other. -/
inductive AllAnswered {σ : Type} (timeout : Duration) (t : Transport σ) :
    σ → List Chain → List Action → List Answer → Prop
  | nil {peer : σ} {chains : List Chain} : AllAnswered timeout t peer chains [] []
  | cons {peer : σ} {chains : List Chain} {action : Action} {answer : Answer}
      {actions : List Action} {answers : List Answer} :
      action.Answered timeout t peer chains answer →
      AllAnswered timeout t ((action.contact? chains).toList.foldl t.after peer)
        (action.after chains) actions answers →
      AllAnswered timeout t peer chains (action :: actions) (answer :: answers)

end Action

namespace Conversation

variable {σ : Type} (s : Conversation σ)

theorem set_eq_modify {α : Type} {as : List α} {i : Nat} {a : α} (h : as[i]? = some a)
    (f : α → α) : as.set i (f a) = as.modify i f := by
  have : Inhabited α := ⟨a⟩
  rw [List.modify_eq_set, h, Option.getD_some]

theorem eq_modify {α : Type} {as : List α} {i : Nat} (h : as[i]? = none) (f : α → α) :
    as = as.modify i f :=
  (List.modify_eq_self (List.getElem?_eq_none_iff.mp h)).symm

theorem chains_step (action : Action) : (s.step action).2.chains = action.after s.chains := by
  cases action with
  | compile i =>
      cases h : s.chains[i]? with
      | none =>
          simp only [step, h]
          exact eq_modify h _
      | some chain =>
          simp only [step, h]
          exact set_eq_modify h (·.compile.2)
  | run i use =>
      cases h : s.chains[i]? with
      | none =>
          simp only [step, h]
          exact eq_modify h _
      | some chain =>
          simp only [step, h, Client.chain_run]
          exact set_eq_modify h (·.compile.2)
  | _ => rfl

theorem contacted_step (action : Action) :
    s.client.Contacted (action.contact? s.chains).toList (s.step action).2.client := by
  cases action with
  | run i use =>
      cases h : s.chains[i]? with
      | none =>
          simp only [step, Action.contact?, h]
          exact .refl _
      | some chain =>
          simp only [step, Action.contact?, h]
          exact s.client.contacted_run chain
  | query sql params => exact s.client.contacted_query sql params
  | health now => exact s.client.contacted_health now
  | compile i =>
      cases h : s.chains[i]? with
      | none =>
          simp only [step, Action.contact?, h]
          exact .refl _
      | some chain =>
          simp only [step, Action.contact?, h]
          exact .refl _
  | addHook hook => exact ⟨rfl, rfl, (List.append_nil _).symm, rfl⟩
  | _ => exact .refl _

theorem answered_step (action : Action) :
    action.Answered s.client.settings.requestTimeout s.client.transport s.client.peer s.chains
      (s.step action).1 := by
  cases action with
  | run i use =>
      intro chain h
      refine ⟨_, s.client.chainAnswer_run chain, ?_⟩
      simp only [step, h]
  | query sql params => exact ⟨_, s.client.queryAnswer_query sql params, rfl⟩
  | health now => exact ⟨_, s.client.healthAnswer_health now, rfl⟩
  | askLocally question => rfl
  | _ => exact True.intro

theorem contacted_run (actions : List Action) :
    s.client.Contacted (Action.trace s.chains actions) (s.run actions).2.client := by
  induction actions generalizing s with
  | nil => exact .refl _
  | cons action actions ih =>
      have hrest := ih (s.step action).2
      rw [s.chains_step] at hrest
      exact (s.contacted_step action).trans hrest

theorem allAnswered_run (actions : List Action) :
    Action.AllAnswered s.client.settings.requestTimeout s.client.transport s.client.peer s.chains
      actions (s.run actions).1 := by
  induction actions generalizing s with
  | nil => exact .nil
  | cons action actions ih =>
      have hrest := ih (s.step action).2
      -- The first action leaves the transport as it is, and the other side as its contact tells.
      have hstep := s.contacted_step action
      rw [s.chains_step, hstep.settings, hstep.transport, hstep.peer] at hrest
      exact .cons (s.answered_step action) hrest

/-- Whatever a caller does, the transport is handed one request for each run of a chain that
compiles and for each statement within the limit of parameters, in order, with the text and the
values of the statement, and none for anything else; and each action is answered by what came back
for it. -/
theorem sent_and_answers_run (actions : List Action) :
    (s.run actions).2.client.sent =
        s.client.sent ++ (Action.trace s.chains actions).filterMap Contact.request? ∧
      (s.run actions).2.client.peer =
        (Action.trace s.chains actions).foldl s.client.transport.after s.client.peer ∧
      Action.AllAnswered s.client.settings.requestTimeout s.client.transport s.client.peer s.chains
        actions (s.run actions).1 := by
  have hcontacted := s.contacted_run actions
  exact ⟨hcontacted.sent, hcontacted.peer, s.allAnswered_run actions⟩

end Conversation

end SqlGateway
