import SqlGateway.Proofs.Gateway.Rejection
import SqlGateway.Proofs.Query.Clauses
import SqlGateway.Proofs.Statement.Text
import SqlGateway.Proofs.Text.Split

/-! A chain and its statement in the caller's own words. The statement of a chain begins with the
word of its command and has few enough parameters, whatever the chain has kept it from; so to send
its text and its values by hand comes to the same thing as to run the chain, up to the table that
listeners are told and the shape of the answer. -/
namespace SqlGateway

open Fragment

/-! ### Statements that were compiled -/

def Statement.Compiled (s : Statement) : Prop := ∃ q operation, Query.compile q operation = .ok s

theorem Query.exists_written_fragments (q : Query) (operation : Operation) :
    ∃ rest, written 0 (q.fragments operation) = operation.command.word.toList ++ ' ' :: rest := by
  have hinsert : "INSERT INTO ".toList = Command.insert.word.toList ++ ' ' :: "INTO ".toList := by
    decide
  have hupdate : "UPDATE ".toList = Command.update.word.toList ++ [' '] := by decide
  have hfirst : ∃ first tail rest, q.fragments operation = .text first :: rest ∧
      first.toList = operation.command.word.toList ++ ' ' :: tail := by
    cases operation with
    | select => exact ⟨"SELECT ", [], _, rfl, rfl⟩
    | insert r => exact ⟨"INSERT INTO ", _, _, rfl, hinsert⟩
    | update r => exact ⟨"UPDATE ", _, _, rfl, hupdate⟩
    | delete => exact ⟨"DELETE FROM ", "FROM ".toList, _, rfl, rfl⟩
  obtain ⟨first, tail, rest, hfragments, htail⟩ := hfirst
  refine ⟨tail ++ written 0 rest, ?_⟩
  rw [hfragments, written, htail, List.append_assoc, List.cons_append]

theorem Command.words_word (command : Command) :
    Text.words command.word.toList = [command.word.toList] := by
  cases command <;> decide

theorem Command.map_toUpper_word (command : Command) :
    command.word.toList.map Char.toUpper = command.word.toList := by
  cases command <;> decide

theorem Dispatch.firstWord_of_command {sql : String} {command : Command} {rest : List Char}
    (h : sql.toList = command.word.toList ++ ' ' :: rest) : firstWord sql = command.word := by
  have hhead : (Text.words sql.toList).head? = some command.word.toList := by
    rw [h, Text.words_append_cons (by decide), command.words_word]
    rfl
  rw [firstWord, hhead, Option.getD_some, command.map_toUpper_word, String.ofList_toList]

theorem Dispatch.table_event (d : Dispatch) (result : Except Failure QueryOutcome) :
    (d.event result).table = d.table := by
  cases result <;> rfl

theorem Dispatch.event_without_table (d : Dispatch) (result : Except Failure QueryOutcome) :
    Dispatch.event { d with table := none } result = { d.event result with table := none } := by
  cases result <;> rfl

namespace Statement.Compiled

variable {s : Statement}

theorem firstWord_sql (h : s.Compiled) : Dispatch.firstWord s.sql = s.command.word := by
  obtain ⟨q, operation, hcompile⟩ := h
  obtain ⟨-, rfl⟩ := Query.compile_eq_ok_iff.mp hcompile
  obtain ⟨rest, hrest⟩ := q.exists_written_fragments operation
  apply Dispatch.firstWord_of_command
  rw [Statement.toList_sql]
  exact hrest

theorem length_params_le (h : s.Compiled) : s.params.length ≤ 65535 := by
  obtain ⟨q, operation, hcompile⟩ := h
  rw [Query.params_of_compile hcompile]
  exact (Query.compile_eq_ok_iff.mp hcompile).1.count

theorem adHoc_eq (h : s.Compiled) (table : String) :
    Dispatch.adHoc s.sql s.params = { Dispatch.ofStatement table s with table := none } := by
  rw [Dispatch.adHoc, h.firstWord_sql, Dispatch.ofStatement]

end Statement.Compiled

namespace Chain

variable {c : Chain}

/-- What a chain keeps has been compiled at some time. -/
def KeepsCompiled (c : Chain) : Prop := ∀ memo ∈ c.memo, memo.statement.Compiled

theorem KeepsCompiled.compiled (h : c.KeepsCompiled) {s : Statement}
    (hcompile : c.compile.1 = .ok s) : s.Compiled := by
  cases hkept : c.kept? with
  | some kept =>
      rw [compile_of_kept hkept] at hcompile
      cases hcompile
      unfold kept? at hkept
      split at hkept
      · next memo hmemo =>
          split at hkept
          · cases hkept
            exact h memo hmemo
          · cases hkept
      · cases hkept
  | none =>
      -- nothing is kept, so the chain compiles what it is now
      cases hnew : c.query.compile c.operation with
      | error e =>
          rw [compile_of_error hkept hnew] at hcompile
          cases hcompile
      | ok s' =>
          rw [compile_of_ok hkept hnew] at hcompile
          cases hcompile
          exact ⟨_, _, hnew⟩

theorem KeepsCompiled.after (h : c.KeepsCompiled) (step : Step) : (c.after step).KeepsCompiled := by
  cases step with
  | call call =>
      intro memo hmemo
      have hsame : (c.call call).memo = c.memo := c.memo_call call
      exact h memo (hsame ▸ hmemo)
  | compile =>
      change c.compile.2.KeepsCompiled
      cases hkept : c.kept? with
      | some kept =>
          rw [compile_of_kept hkept]
          exact h
      | none =>
          cases hnew : c.query.compile c.operation with
          | error e =>
              rw [compile_of_error hkept hnew]
              exact h
          | ok s =>
              rw [compile_of_ok hkept hnew]
              intro memo hmemo
              cases hmemo
              exact ⟨_, _, hnew⟩

theorem KeepsCompiled.afterAll (h : c.KeepsCompiled) (steps : List Step) :
    (c.afterAll steps).KeepsCompiled := by
  induction steps generalizing c with
  | nil => exact h
  | cons step steps ih => exact ih (h.after step)

/-- However a chain came about, what it compiles to has been compiled at some time. No bound on the
number of calls is needed: even a statement out of date was compiled once. -/
theorem compiled_of_compile {table : String} {steps : List Step} {s : Statement}
    (h : ((ofTable table).afterAll steps).compile.1 = .ok s) : s.Compiled := by
  have hnew : (ofTable table).KeepsCompiled := fun memo hmemo => (nomatch hmemo)
  exact (hnew.afterAll steps).compiled h

theorem table_afterAll (c : Chain) (steps : List Step) :
    (c.afterAll steps).query.table = c.query.table := by
  induction steps generalizing c with
  | nil => rfl
  | cons step steps ih =>
      cases step with
      | call call => exact (ih _).trans (c.table_call call)
      | compile => exact (ih _).trans (congrArg Query.table c.compile_query)

end Chain

namespace Client

variable {σ : Type} (c : Client σ)

/-- The answers of a statement in the caller's own words and of its chain, by what came back in time.
A chain for one row takes the first of the rows, if there is one, and any other chain all of
them. -/
inductive SameAnswer (timeout : Duration) (exchange : Exchange QueryResponse) (one : Prop) :
    Envelope (List Row) → Envelope RowData → Prop
  | failed {f : Failure} : Reply timeout exchange (.error f) →
      SameAnswer timeout exchange one (.err (.ofFailure f)) (.err (.ofFailure f))
  | first {response : QueryResponse} {row : Row} {rest : List Row} : one →
      Reply timeout exchange (.ok response) → response.rows = row :: rest →
      SameAnswer timeout exchange one (.ok (row :: rest)) (.ok (.row row))
  | nothing {response : QueryResponse} : one →
      Reply timeout exchange (.ok response) → response.rows = [] →
      SameAnswer timeout exchange one (.ok []) .empty
  | all {response : QueryResponse} : ¬ one → Reply timeout exchange (.ok response) →
      SameAnswer timeout exchange one (.ok response.rows) (.ok (.rows response.rows))

theorem sameAnswer_of_reply {timeout : Duration} {exchange : Exchange QueryResponse}
    {reply : Except Failure QueryResponse} (h : Reply timeout exchange reply) (chain : Chain)
    (s : Statement) :
    SameAnswer timeout exchange (chain.query.singleRow = true ∨ s.command = .insert)
      (.ofResult ((reply.map QueryOutcome.ofResponse).map fun outcome => some outcome.rows))
      (chainAnswer chain s (reply.map QueryOutcome.ofResponse)) := by
  cases reply with
  | error f => exact .failed h
  | ok response =>
      change SameAnswer _ _ _ (.ok response.rows)
        ⟨RowData.shape s.command chain.query.singleRow response.rows, none⟩
      by_cases hone : chain.query.singleRow = true ∨ s.command = .insert
      · rw [RowData.shape_of_one hone]
        cases hrows : response.rows with
        | nil => exact .nothing hone h hrows
        | cons row rest => exact .first hone h hrows
      · rw [RowData.shape_of_all hone]
        exact .all hone h

/-- To send the statement of a chain by hand comes to the same as to run the chain. Either way one
request is sent and the other side is asked the same, the listeners of the moment get one event, the
same up to the table, and the answers are a failure that is the same for both, or rows, and the data
that the chain makes of them. -/
theorem query_agrees_with_run {table : String} {steps : List Chain.Step} {s : Statement}
    (h : ((Chain.ofTable table).afterAll steps).compile.1 = .ok s) :
    let chain := (Chain.ofTable table).afterAll steps
    let request : QueryRequest := ⟨s.sql, s.params.map Value.wire⟩
    ∃ event : QueryEvent, event.table = some table ∧
      (c.run chain).2.2.sent = c.sent ++ [request] ∧
      (c.query s.sql s.params).2.sent = c.sent ++ [request] ∧
      (c.run chain).2.2.peer = (c.query s.sql s.params).2.peer ∧
      (c.run chain).2.2.emissions = c.emissions ++ [⟨event, c.hooks⟩] ∧
      (c.query s.sql s.params).2.emissions =
        c.emissions ++ [⟨{ event with table := none }, c.hooks⟩] ∧
      SameAnswer c.settings.requestTimeout (c.transport.send c.peer request).1
        (chain.query.singleRow = true ∨ s.command = .insert)
        (c.query s.sql s.params).1 (c.run chain).1 := by
  intro chain request
  have hcompiled := Chain.compiled_of_compile h
  have hquery : c.query s.sql s.params = _ := c.query_of_le hcompiled.length_params_le
  have hrun := c.run_eq chain
  have htable : chain.compile.2.query.table = table := by
    rw [chain.compile_query, Chain.table_afterAll]
    rfl
  -- by hand the same is dispatched, but for the table
  rw [hcompiled.adHoc_eq table] at hquery
  rw [h, htable] at hrun
  dsimp only at hrun
  obtain ⟨reply, hreply, hresult⟩ := c.reply_dispatch (.ofStatement table s)
  have hsame := sameAnswer_of_reply hreply chain.compile.2 s
  rw [chain.compile_query, ← hresult] at hsame
  rw [hrun, hquery]
  refine ⟨(Dispatch.ofStatement table s).event (c.dispatch (.ofStatement table s)).1,
    Dispatch.table_event _ _, rfl, rfl, rfl, rfl, ?_, hsame⟩
  rw [← Dispatch.event_without_table]
  rfl

/-- A chain for one row, compiled before it was complete, with a listener that breaks down. -/
theorem query_agrees_with_run_for_one_task :
    let tasks : List Row := [[("id", .str "a")], [("id", .str "b")]]
    let client : Client Script := ⟨.default, Script.transport,
      ⟨[⟨.immediate, .ok ⟨tasks, none, none⟩⟩], [], []⟩, [⟨"log", fun _ => true⟩], [], []⟩
    ∃ chain s, chain = (Chain.ofTable "tasks").afterAll
        [.compile, .call (.compare "owner" .equal (.text "it's")), .call .single] ∧
      chain.compile.1 = .ok s ∧ s.sql = "SELECT * FROM tasks WHERE owner = $1 LIMIT 1" ∧
      (client.run chain).2.2.sent = [⟨s.sql, s.params.map Value.wire⟩] ∧
      (client.query s.sql s.params).2.sent = [⟨s.sql, s.params.map Value.wire⟩] ∧
      SameAnswer client.settings.requestTimeout ⟨.immediate, .ok ⟨tasks, none, none⟩⟩
        (true = true ∨ s.command = .insert) (client.query s.sql s.params).1
        (client.run chain).1 := by
  have hstatement : ∃ s, ((Chain.ofTable "tasks").afterAll
      [.compile, .call (.compare "owner" .equal (.text "it's")), .call .single]).compile.1 =
        .ok s ∧ s.sql = "SELECT * FROM tasks WHERE owner = $1 LIMIT 1" := by
    refine ⟨_, rfl, ?_⟩
    decide
  obtain ⟨s, hcompile, hsql⟩ := hstatement
  intro tasks client
  obtain ⟨-, -, hrun, hquery, -, -, -, hsame⟩ := client.query_agrees_with_run hcompile
  exact ⟨_, s, rfl, hcompile, hsql, hrun, hquery, hsame⟩

end Client

end SqlGateway
