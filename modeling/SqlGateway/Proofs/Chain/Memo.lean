import SqlGateway.Chain

/-! The statement that a chain keeps is never out of date. Each call raises one of the two
revisions, so while the calls are fewer than the revisions can count, a kept statement with the
revisions of the chain was compiled from the query and the operation that the chain still has. -/
namespace SqlGateway

namespace Query

theorem revision_range (q : Query) (start last : UInt64) :
    (q.range start last).revision = q.revision + 1 := by
  unfold range
  split <;> rfl

end Query

namespace Chain

/-- What may be done with a chain. -/
inductive Step where
  | call (call : Call)
  | compile

/-- The answers to the compilations among the steps. -/
def answers : Chain → List Step → List (Except QueryError Statement)
  | _, [] => []
  | c, .call call :: rest => answers (c.call call) rest
  | c, .compile :: rest => c.compile.1 :: answers c.compile.2 rest

/-- The answers of a chain that keeps nothing and compiles anew each time. -/
def freshAnswers : Chain → List Step → List (Except QueryError Statement)
  | _, [] => []
  | c, .call call :: rest => freshAnswers (c.call call) rest
  | c, .compile :: rest => c.query.compile c.operation :: freshAnswers c rest

def callCount : List Step → Nat
  | [] => 0
  | .call _ :: rest => callCount rest + 1
  | .compile :: rest => callCount rest

/-- A step that changes the query and counts it there, or sets the operation. -/
def Counted (step : Chain → Chain) : Prop :=
  (∃ f : Query → Query, (∀ q, (f q).revision = q.revision + 1) ∧ ∀ c, step c = c.mapQuery f) ∨
    ∃ operation, ∀ c, step c = c.setOperation operation

theorem counted_mapQuery (f : Query → Query) (h : ∀ q, (f q).revision = q.revision + 1) :
    Counted (mapQuery · f) :=
  .inl ⟨f, h, fun _ => rfl⟩

theorem counted_setOperation (operation : Operation) : Counted (setOperation · operation) :=
  .inr ⟨operation, fun _ => rfl⟩

theorem counted_setRecordOperation (operation : Record → Operation) (json : Json) :
    Counted (setRecordOperation · operation json) := by
  unfold setRecordOperation
  cases Record.ofJson json with
  | ok record => exact counted_setOperation (operation record)
  | error e => exact counted_mapQuery (·.defer e) fun _ => rfl

theorem counted_call (call : Call) : Counted (Chain.call · call) := by
  cases call with
  | select projection => exact counted_mapQuery (·.select projection) fun _ => rfl
  | compare column comparison value =>
      exact counted_mapQuery (·.addFilter (.compare column comparison value)) fun _ => rfl
  | among column values => exact counted_mapQuery (·.addFilter (.among column values)) fun _ => rfl
  | orderBy column direction => exact counted_mapQuery (·.orderBy column direction) fun _ => rfl
  | limit count => exact counted_mapQuery (·.limit count) fun _ => rfl
  | range start last =>
      exact counted_mapQuery (·.range start last) fun q => q.revision_range start last
  | single => exact counted_mapQuery Query.single fun _ => rfl
  | insert r => exact counted_setOperation (.insert r)
  | insertJson json => exact counted_setRecordOperation .insert json
  | update r => exact counted_setOperation (.update r)
  | updateJson json => exact counted_setRecordOperation .update json
  | delete => exact counted_setOperation .delete

theorem call_cases (call : Call) :
    (∃ f : Query → Query, (∀ q, (f q).revision = q.revision + 1) ∧
        ∀ c : Chain, c.call call = c.mapQuery f) ∨
      ∃ operation, ∀ c : Chain, c.call call = c.setOperation operation :=
  counted_call call

theorem memo_call (c : Chain) (call : Call) : (c.call call).memo = c.memo := by
  obtain ⟨f, -, hcall⟩ | ⟨operation, hcall⟩ := call_cases call
  · rw [hcall, mapQuery]
  · rw [hcall, setOperation]

theorem compile_of_kept {c : Chain} {s : Statement} (h : c.kept? = some s) :
    c.compile = (.ok s, c) := by
  rw [Chain.compile, h]

theorem compile_of_ok {c : Chain} {s : Statement} (hkept : c.kept? = none)
    (h : c.query.compile c.operation = .ok s) :
    c.compile = (.ok s, { c with memo := some ⟨c.revisions, s⟩ }) := by
  rw [Chain.compile, hkept]
  dsimp only
  rw [h]

theorem compile_of_error {c : Chain} {e : QueryError} (hkept : c.kept? = none)
    (h : c.query.compile c.operation = .error e) : c.compile = (.error e, c) := by
  rw [Chain.compile, hkept]
  dsimp only
  rw [h]

/-- A chain that keeps its statement compiles as before. -/
theorem compile_compile (c : Chain) : c.compile.2.compile = c.compile := by
  cases hkept : c.kept? with
  | some s => rw [compile_of_kept hkept, compile_of_kept hkept]
  | none =>
      cases hquery : c.query.compile c.operation with
      | error e => rw [compile_of_error hkept hquery, compile_of_error hkept hquery]
      | ok s =>
          have hnow : ({ c with memo := some ⟨c.revisions, s⟩ } : Chain).kept? = some s :=
            if_pos rfl
          rw [compile_of_ok hkept hquery, compile_of_kept hnow]

/-- A kept statement comes from a state at or before the present one, and from the present query
and operation if the revisions are the same. -/
structure Current (c : Chain) (memo : Memo) : Prop where
  query_le : memo.revisions.query ≤ c.query.revision
  operation_le : memo.revisions.operation ≤ c.operationRevision
  compiled : memo.revisions = c.revisions → c.query.compile c.operation = .ok memo.statement

/-- The state of a chain after `n` calls. -/
structure Tracks (n : Nat) (c : Chain) : Prop where
  count : c.query.revision.toNat + c.operationRevision.toNat = n
  current : ∀ memo ∈ c.memo, c.Current memo

theorem tracks_ofTable (table : String) : Tracks 0 (ofTable table) :=
  ⟨rfl, fun _ h => nomatch h⟩

theorem toNat_succ {a : UInt64} (h : a.toNat + 1 < UInt64.size) : (a + 1).toNat = a.toNat + 1 := by
  rw [UInt64.toNat_add]
  exact Nat.mod_eq_of_lt h

theorem Tracks.mapQuery {n : Nat} {c : Chain} (h : Tracks n c) (hn : n + 1 < UInt64.size)
    {f : Query → Query} (hf : ∀ q, (f q).revision = q.revision + 1) :
    Tracks (n + 1) (c.mapQuery f) := by
  have hcount := h.count
  have hsucc : (c.mapQuery f).query.revision.toNat = c.query.revision.toNat + 1 := by
    rw [Chain.mapQuery, hf, toNat_succ (by omega)]
  have hsame : (c.mapQuery f).operationRevision = c.operationRevision := rfl
  refine ⟨by rw [hsucc, hsame]; omega, fun memo hmem => ?_⟩
  obtain ⟨hq, ho, -⟩ := h.current memo hmem
  rw [UInt64.le_iff_toNat_le] at hq
  refine ⟨UInt64.le_iff_toNat_le.mpr (by omega), ho, fun hrev => ?_⟩
  have : memo.revisions.query.toNat = (c.mapQuery f).query.revision.toNat :=
    congrArg (UInt64.toNat ∘ Revisions.query) hrev
  omega

theorem Tracks.setOperation {n : Nat} {c : Chain} (h : Tracks n c) (hn : n + 1 < UInt64.size)
    (operation : Operation) : Tracks (n + 1) (c.setOperation operation) := by
  have hcount := h.count
  have hsucc : (c.setOperation operation).operationRevision.toNat =
      c.operationRevision.toNat + 1 := by
    rw [Chain.setOperation, toNat_succ (by omega)]
  have hsame : (c.setOperation operation).query = c.query := rfl
  refine ⟨by rw [hsucc, hsame]; omega, fun memo hmem => ?_⟩
  obtain ⟨hq, ho, -⟩ := h.current memo hmem
  rw [UInt64.le_iff_toNat_le] at ho
  refine ⟨hq, UInt64.le_iff_toNat_le.mpr (by omega), fun hrev => ?_⟩
  have : memo.revisions.operation.toNat = (c.setOperation operation).operationRevision.toNat :=
    congrArg (UInt64.toNat ∘ Revisions.operation) hrev
  omega

/-- Behind a call no kept statement has the revisions of the chain. -/
theorem Tracks.call {n : Nat} {c : Chain} (h : Tracks n c) (hn : n + 1 < UInt64.size)
    (call : Call) : Tracks (n + 1) (c.call call) := by
  obtain ⟨f, hf, hcall⟩ | ⟨operation, hcall⟩ := call_cases call
  · rw [hcall]
    exact h.mapQuery hn hf
  · rw [hcall]
    exact h.setOperation hn operation

theorem Tracks.kept {n : Nat} {c : Chain} (h : Tracks n c) {statement : Statement}
    (hkept : c.kept? = some statement) : c.query.compile c.operation = .ok statement := by
  unfold kept? at hkept
  split at hkept
  · next memo hmemo =>
      split at hkept
      · next hrev =>
          cases hkept
          exact (h.current memo hmemo).compiled hrev
      · cases hkept
  · cases hkept

/-- A compilation answers what the query and the operation give, and keeps nothing else. -/
theorem Tracks.compile {n : Nat} {c : Chain} (h : Tracks n c) :
    c.compile.1 = c.query.compile c.operation ∧ c.compile.2.query = c.query ∧
      c.compile.2.operation = c.operation ∧ Tracks n c.compile.2 := by
  unfold Chain.compile
  cases hkept : c.kept? with
  | some statement => exact ⟨(h.kept hkept).symm, rfl, rfl, h⟩
  | none =>
      cases hcompile : c.query.compile c.operation with
      | error e => exact ⟨rfl, rfl, rfl, h⟩
      | ok statement =>
          refine ⟨rfl, rfl, rfl, h.count, fun memo hmem => ?_⟩
          cases hmem
          exact ⟨UInt64.le_refl _, UInt64.le_refl _, fun _ => hcompile⟩

/-- What a call makes of the query and the operation does not depend on what the chain keeps. -/
theorem call_congr {c d : Chain} (hquery : c.query = d.query)
    (hoperation : c.operation = d.operation) (call : Call) :
    (c.call call).query = (d.call call).query ∧
      (c.call call).operation = (d.call call).operation := by
  obtain ⟨f, -, hcall⟩ | ⟨operation, hcall⟩ := call_cases call
  · rw [hcall, hcall]
    exact ⟨congrArg f hquery, hoperation⟩
  · rw [hcall, hcall]
    exact ⟨hquery, rfl⟩

theorem answers_eq_of_tracks {n : Nat} {c d : Chain} (h : Tracks n c) (hquery : c.query = d.query)
    (hoperation : c.operation = d.operation) (steps : List Step)
    (hn : n + callCount steps < UInt64.size) : answers c steps = freshAnswers d steps := by
  induction steps generalizing n c d with
  | nil => rfl
  | cons step steps ih =>
      cases step with
      | call call =>
          rw [callCount] at hn
          obtain ⟨hquery', hoperation'⟩ := call_congr hquery hoperation call
          exact ih (h.call (by omega) call) hquery' hoperation' (by omega)
      | compile =>
          obtain ⟨hanswer, hsame, hsame', htracks⟩ := h.compile
          rw [answers, freshAnswers, hanswer, hquery, hoperation,
            ih htracks (hsame.trans hquery) (hsame'.trans hoperation) hn]

/-- Keeping statements cannot be seen: however calls and compilations alternate, and whether
compilations succeed or fail, each answer is that of a chain which compiles anew each time. -/
theorem answers_eq_freshAnswers (table : String) (steps : List Step)
    (h : callCount steps < UInt64.size) :
    answers (ofTable table) steps = freshAnswers (ofTable table) steps :=
  answers_eq_of_tracks (tracks_ofTable table) rfl rfl steps (by omega)

/-- A compilation that fails leaves an older statement behind, which is not answered later on. -/
theorem answers_around_a_failure :
    let steps : List Step := [.compile, .compile, .call (.orderBy "no name" .ascending), .compile,
      .call (.orderBy "name" .descending), .compile, .call (.insertJson .null), .compile]
    callCount steps < UInt64.size ∧
      answers (ofTable "tasks") steps = freshAnswers (ofTable "tasks") steps :=
  ⟨by decide, answers_eq_freshAnswers _ _ (by decide)⟩

end Chain

end SqlGateway
