import SqlGateway.Gateway.Script
import SqlGateway.Proofs.Chain.Calls
import SqlGateway.Proofs.Gateway.Conversation

/-! A rejected chain stays rejected. No call replaces the table, takes a condition away or clears a
recorded error; a compilation that fails keeps nothing; and a statement kept from the time before
the chain went wrong has older revisions than the chain. -/
namespace SqlGateway

theorem Query.compile_of_deferred {q : Query} {e : QueryError} (h : q.deferred = some e)
    (operation : Operation) : q.compile operation = .error e := by
  rw [compile, check, h]
  rfl

namespace Chain

/-- What no call can repair. -/
inductive Rejected (c : Chain) : Prop
  | table : Identifier.accepts c.query.table = false → Rejected c
  | column {f : Filter} : f ∈ c.query.filters → Identifier.accepts f.column = false → Rejected c
  | deferred {e : QueryError} : c.query.deferred = some e → Rejected c

variable {c : Chain}

theorem table_call (c : Chain) (call : Call) : (c.call call).query.table = c.query.table :=
  congrArg Plan.table (c.plan_call call)

theorem filters_call (c : Chain) (call : Call) :
    (c.call call).query.filters = c.query.filters ++ call.filter?.toList :=
  congrArg Plan.filters (c.plan_call call)

theorem deferred_call (c : Chain) (call : Call) :
    (c.call call).query.deferred = c.query.deferred.or call.error? :=
  congrArg Plan.deferred (c.plan_call call)

theorem deferred_call_of_some {e : QueryError} (h : c.query.deferred = some e) (call : Call) :
    (c.call call).query.deferred = some e := by
  rw [deferred_call, h, Option.some_or]

theorem Rejected.call (h : c.Rejected) (call : Call) : (c.call call).Rejected := by
  cases h with
  | table htable =>
      apply Rejected.table
      rw [table_call, htable]
  | column hmem hname =>
      refine Rejected.column ?_ hname
      rw [filters_call]
      exact List.mem_append_left _ hmem
  | deferred hdeferred => exact .deferred (deferred_call_of_some hdeferred call)

theorem Rejected.of_query_eq (h : c.Rejected) {d : Chain} (hquery : d.query = c.query) :
    d.Rejected := by
  cases h with
  | table htable => exact .table (hquery ▸ htable)
  | column hmem hname => exact .column (hquery ▸ hmem) hname
  | deferred hdeferred => exact .deferred (hquery ▸ hdeferred)

theorem Rejected.not_accepted (h : c.Rejected) (operation : Operation) :
    ¬ c.query.Accepted operation := by
  intro haccepted
  cases h with
  | table htable => exact absurd haccepted.table (Bool.eq_false_iff.mp htable)
  | column hmem hname => exact absurd (haccepted.columns _ hmem) (Bool.eq_false_iff.mp hname)
  | deferred hdeferred => exact absurd (haccepted.noError.symm.trans hdeferred) (fun h => nomatch h)

/-- A rejected query has no statement, and its recorded error comes before all others. -/
theorem Rejected.exists_error (h : c.Rejected) (operation : Operation) :
    ∃ e, c.query.compile operation = .error e ∧ ∀ d ∈ c.query.deferred, e = d := by
  cases hdeferred : c.query.deferred with
  | some d =>
      refine ⟨d, Query.compile_of_deferred hdeferred operation, fun d' hd' => ?_⟩
      exact Option.some.inj hd'
  | none =>
      cases hcompile : c.query.compile operation with
      | ok s => exact absurd (Query.compile_eq_ok_iff.mp hcompile).1 (h.not_accepted operation)
      | error e => exact ⟨e, rfl, fun d hd => (nomatch hd)⟩

/-- The compilation of a rejected chain fails and changes nothing, if no kept statement is taken
for that of the chain. -/
theorem Rejected.compile_eq (h : c.Rejected) (hkept : c.kept? = none) :
    ∃ e, c.compile = (.error e, c) ∧ ∀ d ∈ c.query.deferred, e = d := by
  obtain ⟨e, hcompile, hfirst⟩ := h.exists_error c.operation
  exact ⟨e, compile_of_error hkept hcompile, hfirst⟩

theorem kept?_of_memo_eq_none (h : c.memo = none) : c.kept? = none := by
  rw [kept?, h]

theorem Rejected.kept?_of_tracks (h : c.Rejected) {n : Nat} (htracks : Tracks n c) :
    c.kept? = none := by
  obtain ⟨e, hcompile, -⟩ := h.exists_error c.operation
  cases hkept : c.kept? with
  | none => rfl
  | some s => exact absurd ((htracks.kept hkept).symm.trans hcompile) (fun h => nomatch h)

/-! ### A list of steps -/

/-- The chain after a step. -/
def after (c : Chain) : Step → Chain
  | .call call => c.call call
  | .compile => c.compile.2

def afterAll (c : Chain) (steps : List Step) : Chain := steps.foldl after c

theorem afterAll_append (c : Chain) (first second : List Step) :
    c.afterAll (first ++ second) = (c.afterAll first).afterAll second := List.foldl_append

theorem callCount_append (first second : List Step) :
    callCount (first ++ second) = callCount first + callCount second := by
  induction first with
  | nil => rw [List.nil_append, callCount, Nat.zero_add]
  | cons step steps ih =>
      cases step with
      | call call =>
          rw [List.cons_append, callCount, callCount, ih]
          omega
      | compile => rw [List.cons_append, callCount, callCount, ih]

theorem Rejected.afterAll (h : c.Rejected) (steps : List Step) : (c.afterAll steps).Rejected := by
  induction steps generalizing c with
  | nil => exact h
  | cons step steps ih =>
      cases step with
      | call call => exact ih (h.call call)
      | compile => exact ih (h.of_query_eq c.compile_query)

theorem deferred_afterAll {e : QueryError} (h : c.query.deferred = some e) (steps : List Step) :
    (c.afterAll steps).query.deferred = some e := by
  induction steps generalizing c with
  | nil => exact h
  | cons step steps ih =>
      cases step with
      | call call => exact ih (deferred_call_of_some h call)
      | compile => exact ih ((congrArg Query.deferred c.compile_query).trans h)

/-- A rejected chain that keeps nothing goes on so. -/
theorem Rejected.memo_afterAll (h : c.Rejected) (hmemo : c.memo = none) (steps : List Step) :
    (c.afterAll steps).memo = none := by
  induction steps generalizing c with
  | nil => exact hmemo
  | cons step steps ih =>
      cases step with
      | call call => exact ih (h.call call) ((c.memo_call call).trans hmemo)
      | compile =>
          obtain ⟨e, hcompile, -⟩ := h.compile_eq (kept?_of_memo_eq_none hmemo)
          have hsame : c.compile.2 = c := congrArg Prod.snd hcompile
          exact ih (h.of_query_eq c.compile_query) ((congrArg memo hsame).trans hmemo)

theorem Tracks.afterAll {n : Nat} (h : Tracks n c) {steps : List Step}
    (hn : n + callCount steps < UInt64.size) : Tracks (n + callCount steps) (c.afterAll steps) := by
  induction steps generalizing n c with
  | nil => exact h
  | cons step steps ih =>
      cases step with
      | call call =>
          rw [callCount] at hn ⊢
          have hrest := ih (h.call (by omega) call) (by omega)
          rwa [Nat.add_right_comm n 1, Nat.add_assoc n] at hrest
      | compile => exact ih h.compile.2.2.2 hn

/-- Once rejected, always rejected. Only a chain that keeps a statement has its calls counted. -/
theorem Rejected.compile_afterAll {table : String} {before : List Step}
    (h : ((ofTable table).afterAll before).Rejected) {later : List Step}
    (hcalls : ((ofTable table).afterAll before).memo ≠ none →
      callCount before + callCount later < UInt64.size) :
    ∃ e, (((ofTable table).afterAll before).afterAll later).compile =
        (.error e, ((ofTable table).afterAll before).afterAll later) ∧
      ∀ d ∈ ((ofTable table).afterAll before).query.deferred, e = d := by
  have hlater := h.afterAll later
  have hkept : (((ofTable table).afterAll before).afterAll later).kept? = none := by
    -- Where nothing is kept nothing can be revived, and what is kept has older revisions.
    by_cases hmemo : ((ofTable table).afterAll before).memo = none
    · exact kept?_of_memo_eq_none (h.memo_afterAll hmemo later)
    · have hcount : 0 + callCount (before ++ later) < UInt64.size := by
        rw [callCount_append, Nat.zero_add]
        exact hcalls hmemo
      have htracks := (tracks_ofTable table).afterAll hcount
      rw [afterAll_append] at htracks
      exact hlater.kept?_of_tracks htracks
  obtain ⟨e, hcompile, hfirst⟩ := hlater.compile_eq hkept
  refine ⟨e, hcompile, fun d hd => hfirst d ?_⟩
  exact deferred_afterAll hd later

/-! ### Revisions that come round -/

/-- Calls that set the limit move the revision of the query on by their number, modulo `2 ^ 64`. -/
theorem afterAll_replicate_limit (c : Chain) (count : UInt64) (n : Nat) :
    (c.afterAll (List.replicate n (.call (.limit count)))).revisions =
        ⟨c.query.revision + UInt64.ofNat n, c.operationRevision⟩ ∧
      (c.afterAll (List.replicate n (.call (.limit count)))).memo = c.memo := by
  induction n generalizing c with
  | zero =>
      have hnone : c.query.revision + UInt64.ofNat 0 = c.query.revision := UInt64.add_zero _
      rw [hnone]
      exact ⟨rfl, rfl⟩
  | succ n ih =>
      obtain ⟨hrevisions, hmemo⟩ := ih (c.call (.limit count))
      have hnext : (c.call (.limit count)).query.revision + UInt64.ofNat n =
          c.query.revision + UInt64.ofNat (n + 1) := by
        rw [UInt64.ofNat_add, UInt64.add_comm (UInt64.ofNat n), ← UInt64.add_assoc]
        rfl
      rw [hnext] at hrevisions
      exact ⟨hrevisions, hmemo⟩

/-- A statement is kept again once the revisions are those that it was kept with. -/
theorem kept?_afterAll_replicate_limit {memo : Memo} (hmemo : c.memo = some memo) {n : Nat}
    (hround : memo.revisions = ⟨c.query.revision + UInt64.ofNat n, c.operationRevision⟩)
    (count : UInt64) :
    (c.afterAll (List.replicate n (.call (.limit count)))).kept? = some memo.statement := by
  obtain ⟨hrevisions, hsame⟩ := c.afterAll_replicate_limit count n
  rw [kept?, hsame, hmemo]
  exact if_pos (hround.trans hrevisions.symm)

end Chain

/-! ### A chain among the actions of a caller -/

/-- What an action does to the chain at this place. -/
def Action.chainStep? (i : Nat) : Action → Option Chain.Step
  | .call j link => if j = i then some (.call link) else none
  | .compile j => if j = i then some .compile else none
  | .run j _ => if j = i then some .compile else none
  | _ => none

namespace Conversation

variable {σ : Type}

theorem getElem?_modify_at {chains : List Chain} {i : Nat} {chain : Chain}
    (h : chains[i]? = some chain) (j : Nat) (step : Chain.Step) :
    (chains.modify j (·.after step))[i]? =
      some (chain.afterAll (if j = i then some step else none).toList) := by
  rw [List.getElem?_modify, h]
  by_cases hji : j = i
  · simp only [if_pos hji]
    rfl
  · simp only [if_neg hji]
    rfl

theorem getElem?_after {chains : List Chain} {i : Nat} {chain : Chain}
    (h : chains[i]? = some chain) (action : Action) :
    (action.after chains)[i]? = some (chain.afterAll (action.chainStep? i).toList) := by
  cases action with
  | openChain table => exact (List.getElem?_append_left (List.getElem?_eq_some_iff.mp h).1).trans h
  | call j link => exact getElem?_modify_at h j (.call link)
  | compile j => exact getElem?_modify_at h j .compile
  | run j use => exact getElem?_modify_at h j .compile
  | _ => exact h

theorem getElem?_chains_run {s : Conversation σ} {i : Nat} {chain : Chain}
    (h : s.chains[i]? = some chain) (actions : List Action) :
    (s.run actions).2.chains[i]? =
      some (chain.afterAll (actions.filterMap (Action.chainStep? i))) := by
  induction actions generalizing s chain with
  | nil => exact h
  | cons action actions ih =>
      have hstep : (s.step action).2.chains[i]? =
          some (chain.afterAll (action.chainStep? i).toList) := by
        rw [chains_step]
        exact getElem?_after h action
      rw [run, ih hstep, ← Chain.afterAll_append]
      cases hone : action.chainStep? i with
      | none => rw [List.filterMap_cons_none hone, Option.toList_none, List.nil_append]
      | some step =>
          rw [List.filterMap_cons_some hone, Option.toList_some, List.cons_append, List.nil_append]

theorem length_after (chains : List Chain) (action : Action) :
    (action.after chains).length = chains.length ∨
      ∃ table, action.after chains = chains ++ [.ofTable table] := by
  cases action with
  | openChain table => exact .inr ⟨table, rfl⟩
  | call j link => exact .inl (List.length_modify ..)
  | compile j => exact .inl (List.length_modify ..)
  | run j use => exact .inl (List.length_modify ..)
  | _ => exact .inl rfl

/-- Every chain that was opened has come about by the steps of the actions on it. -/
theorem exists_steps {s : Conversation σ} {i : Nat} (hnew : s.chains.length ≤ i)
    {actions : List Action} {chain : Chain} (h : (s.run actions).2.chains[i]? = some chain) :
    ∃ table steps, chain = (Chain.ofTable table).afterAll steps ∧
      Chain.callCount steps ≤ Chain.callCount (actions.filterMap (Action.chainStep? i)) := by
  induction actions generalizing s with
  | nil => exact absurd (List.getElem?_eq_some_iff.mp h).1 (Nat.not_lt.mpr hnew)
  | cons action actions ih =>
      have hmore : Chain.callCount (actions.filterMap (Action.chainStep? i)) ≤
          Chain.callCount ((action :: actions).filterMap (Action.chainStep? i)) := by
        rw [← List.singleton_append, List.filterMap_append, Chain.callCount_append]
        exact Nat.le_add_left ..
      have hopened := length_after s.chains action
      rw [← chains_step] at hopened
      have holder : (s.step action).2.chains.length ≤ i → ∃ table steps,
          chain = (Chain.ofTable table).afterAll steps ∧ Chain.callCount steps ≤
            Chain.callCount ((action :: actions).filterMap (Action.chainStep? i)) := by
        intro hlength
        obtain ⟨table, steps, hchain, hcount⟩ := ih hlength h
        exact ⟨table, steps, hchain, Nat.le_trans hcount hmore⟩
      -- Either this action opens the chain, and the rest are its steps, or a later one does.
      obtain hsame | ⟨table, hone⟩ := hopened
      · exact holder (hsame ▸ hnew)
      · by_cases hi : i = s.chains.length
        · have hfirst : (s.step action).2.chains[i]? = some (.ofTable table) := by
            rw [hone, hi, List.getElem?_concat_length]
          have hrun : some chain = _ := h.symm.trans (getElem?_chains_run hfirst actions)
          exact ⟨table, _, Option.some.inj hrun, hmore⟩
        · apply holder
          rw [hone, List.length_append, List.length_singleton]
          omega

/-- A chain that does not compile is answered with its error, and nothing else changes. -/
theorem step_of_compile_eq_error {s : Conversation σ} {i : Nat} {chain : Chain}
    (h : s.chains[i]? = some chain) {e : QueryError}
    (hcompile : chain.compile = (.error e, chain)) :
    s.step (.compile i) = (.compiled (.error e), s) ∧
      ∀ use, s.step (.run i use) = (use.read (.err (.ofFailure (.query e))), s) := by
  have hset : s.chains.set i chain = s.chains := by
    obtain ⟨hi, hget⟩ := List.getElem?_eq_some_iff.mp h
    rw [← hget, List.set_getElem_self]
  have hrun : s.client.run chain = (.err (.ofFailure (.query e)), chain, s.client) := by
    rw [Client.run, hcompile]
  constructor
  · simp only [step, h, hcompile, hset]
  · intro use
    simp only [step, h, hrun, hset]

/-- Once a chain is rejected, then whatever a caller goes on to do with it and with the client, to
compile it is an error and to run it is answered with that error and changes nothing: nothing is
sent and no event arises. A recorded error is the answer every time. Revisions count calls modulo
`2 ^ 64`, which matters to a chain that has been compiled before it went wrong. -/
theorem rejection_is_permanent (client : Client σ) (before later : List Action) {i : Nat}
    {chain : Chain}
    (hchain : ((⟨client, []⟩ : Conversation σ).run before).2.chains[i]? = some chain)
    (hrejected : chain.Rejected)
    (hcalls : chain.memo ≠ none →
      Chain.callCount ((before ++ later).filterMap (Action.chainStep? i)) < UInt64.size) :
    let s := (((⟨client, []⟩ : Conversation σ).run before).2.run later).2
    ∃ e, (∀ d ∈ chain.query.deferred, e = d) ∧
      s.step (.compile i) = (.compiled (.error e), s) ∧
      ∀ use, s.step (.run i use) = (use.read (.err (.ofFailure (.query e))), s) := by
  intro s
  obtain ⟨table, steps, rfl, hcount⟩ := exists_steps (Nat.zero_le i) hchain
  have hcalls' : ((Chain.ofTable table).afterAll steps).memo ≠ none →
      Chain.callCount steps + Chain.callCount (later.filterMap (Action.chainStep? i)) <
        UInt64.size := by
    intro hmemo
    have hall := hcalls hmemo
    rw [List.filterMap_append, Chain.callCount_append] at hall
    omega
  obtain ⟨e, hcompile, hfirst⟩ := hrejected.compile_afterAll hcalls'
  have hlater := getElem?_chains_run hchain later
  exact ⟨e, hfirst, step_of_compile_eq_error hlater hcompile⟩

/-- A chain that was compiled and run goes wrong, and nothing that follows brings it back. -/
theorem range_that_ends_a_chain :
    let client : Client Script := ⟨.default, Script.transport, ⟨[], [], []⟩, [], [], []⟩
    let before : List Action :=
      [.openChain "tasks", .compile 0, .run 0 .execute, .call 0 (.range 9 3)]
    let later : List Action := [.call 0 (.range 3 9), .compile 0, .query "SELECT 1" [],
      .call 0 (.insertJson .null), .call 0 .delete, .run 0 .data]
    let s := (((⟨client, []⟩ : Conversation Script).run before).2.run later).2
    s.step (.compile 0) = (.compiled (.error (.invalidRange 9 3)), s) ∧
      s.step (.run 0 .execute) =
        (.chain (.err (.ofFailure (.query (.invalidRange 9 3)))), s) := by
  intro client before later s
  obtain ⟨e, hfirst, hcompile, hrun⟩ := rejection_is_permanent client before later (i := 0) rfl
    (.deferred rfl) (fun _ => by decide)
  obtain rfl : e = .invalidRange 9 3 := hfirst _ rfl
  exact ⟨hcompile, hrun .execute⟩

/-- A kept statement is answered and sent without a look at the chain. -/
theorem step_of_kept? {s : Conversation σ} {i : Nat} {chain : Chain}
    (h : s.chains[i]? = some chain) {statement : Statement}
    (hkept : chain.kept? = some statement) :
    (s.step (.compile i)).1 = .compiled (.ok statement) ∧
      ∀ use, (s.step (.run i use)).2.client.sent =
          s.client.sent ++ [⟨statement.sql, statement.params.map Value.wire⟩] ∧
        (s.step (.run i use)).2.client.emissions.length = s.client.emissions.length + 1 := by
  have hcompile := Chain.compile_of_kept hkept
  constructor
  · simp only [step, h, hcompile]
  · intro use
    simp only [step, h, Client.run, hcompile]
    exact ⟨rfl, List.length_append⟩

theorem client_run_replicate_call (s : Conversation σ) (n i : Nat) (link : Chain.Call) :
    (s.run (List.replicate n (.call i link))).2.client = s.client := by
  induction n generalizing s with
  | zero => rfl
  | succ n ih => exact ih (s.step (.call i link)).2

/-- As many calls as there are revisions bring a rejected chain back: what it kept before it went
wrong is answered, sent and told to listeners once more. -/
theorem rejected_chain_comes_back :
    let client : Client Script := ⟨.default, Script.transport, ⟨[], [], []⟩, [], [], []⟩
    let before : List Action := [.openChain "tasks", .compile 0, .call 0 (.range 9 3)]
    let later : List Action := List.replicate (UInt64.size - 1) (.call 0 (.limit 5))
    let s := ((⟨client, []⟩ : Conversation Script).run before).2
    let s' := (s.run later).2
    ∃ chain statement, s.chains[0]? = some chain ∧
      chain.query.deferred = some (.invalidRange 9 3) ∧
      (s'.step (.compile 0)).1 = .compiled (.ok statement) ∧
      (s'.step (.run 0 .execute)).2.client.sent = [⟨"SELECT * FROM tasks", []⟩] ∧
      (s'.step (.run 0 .execute)).2.client.emissions.length = 1 := by
  intro client before later s s'
  have hsteps (n : Nat) : (List.replicate n (Action.call 0 (.limit 5))).filterMap
      (Action.chainStep? 0) = List.replicate n (.call (.limit 5)) :=
    List.filterMap_replicate_of_some rfl
  obtain ⟨chain, memo, hchain, hdeferred, hmemo, hround, hsql, hparams⟩ :
      ∃ chain memo, s.chains[0]? = some chain ∧
        chain.query.deferred = some (.invalidRange 9 3) ∧ chain.memo = some memo ∧
        memo.revisions = ⟨chain.query.revision + UInt64.ofNat (UInt64.size - 1),
          chain.operationRevision⟩ ∧
        memo.statement.sql = "SELECT * FROM tasks" ∧ memo.statement.params = [] :=
    ⟨_, _, rfl, rfl, rfl, by decide, by decide, rfl⟩
  have hlater := getElem?_chains_run hchain later
  rw [hsteps] at hlater
  obtain ⟨hcompiled, hrun⟩ :=
    step_of_kept? hlater (Chain.kept?_afterAll_replicate_limit hmemo hround 5)
  obtain ⟨hsent, hemissions⟩ := hrun .execute
  have hclient := client_run_replicate_call s (UInt64.size - 1) 0 (.limit 5)
  refine ⟨chain, memo.statement, hchain, hdeferred, hcompiled, ?_, ?_⟩
  · rw [hsent, hsql, hparams, hclient]
    rfl
  · rw [hemissions, hclient]
    rfl

end Conversation

end SqlGateway
