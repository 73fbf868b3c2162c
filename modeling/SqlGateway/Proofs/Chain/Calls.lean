import Mathlib.Data.List.Induction
import SqlGateway.Proofs.Chain.Memo
import SqlGateway.Proofs.Query.Window

/-! What a list of calls means. Conditions gather, most other calls replace what an earlier call of
their kind has set, a recorded error stays, and some calls change their kind with their argument:
a range that cannot be counted and a record that is none set nothing but an error. -/
namespace SqlGateway.Chain

namespace Call

/-- The condition that a call adds. -/
@[simp] def filter? : Call → Option Filter
  | .compare column comparison value => some (.compare column comparison value)
  | .among column values => some (.among column values)
  | _ => none

@[simp] def projection? : Call → Option String
  | .select projection =>
    some (if Text.trim projection = "" then "*" else Text.trim projection)
  | _ => none

@[simp] def order? : Call → Option (String × Direction)
  | .orderBy column direction => some (column, direction)
  | _ => none

@[simp] def window? : Call → Option Window
  | .limit count => some ⟨some count, none⟩
  | .range start last =>
    if Window.Countable start last then
      some ⟨some (UInt64.ofNat (last.toNat - start.toNat + 1)), some start⟩
    else none
  | _ => none

@[simp] def isSingle : Call → Bool
  | .single => true
  | _ => false

/-- The record of a JSON object, of which no other kind of JSON has one. -/
def record? : Json → Option Record
  | .obj members => some (.ofPairs (members.map fun member => (member.1, Value.ofJson member.2)))
  | _ => none

def recordError? : Json → Option QueryError
  | .obj _ => none
  | json => some (.invalidQuery (.notARecord json.kind))

@[simp] def operation? : Call → Option Operation
  | .insert record => some (.insert record)
  | .insertJson json => (record? json).map .insert
  | .update record => some (.update record)
  | .updateJson json => (record? json).map .update
  | .delete => some .delete
  | _ => none

/-- The error of a call that cannot be carried out. -/
@[simp] def error? : Call → Option QueryError
  | .range start last =>
    if Window.Countable start last then none else some (.invalidRange start last)
  | .insertJson json => recordError? json
  | .updateJson json => recordError? json
  | _ => none

end Call

/-! ### Calls by names of their own -/

theorem eq_eq_call (c : Chain) (column : String) (value : Value) :
    c.eq column value = c.call (.compare column .equal value) := rfl

theorem equals_eq_call (c : Chain) (column : String) (value : Value) :
    c.equals column value = c.call (.compare column .equal value) := rfl

theorem neq_eq_call (c : Chain) (column : String) (value : Value) :
    c.neq column value = c.call (.compare column .notEqual value) := rfl

theorem notEquals_eq_call (c : Chain) (column : String) (value : Value) :
    c.notEquals column value = c.call (.compare column .notEqual value) := rfl

theorem like_eq_call (c : Chain) (column pattern : String) :
    c.like column pattern = c.call (.compare column .like (.text pattern)) := rfl

/-- Rows descend just where the options say so. -/
theorem order_eq_call (c : Chain) (column : String) (options : OrderOptions) :
    c.order column options =
      c.call (.orderBy column (if options.ascending then .ascending else .descending)) := rfl

example (c : Chain) : c.order "id" {} = c.call (.orderBy "id" .ascending) := rfl

/-! ### The meaning of a list -/

/-- All that a chain has been told, without the revisions and the memo. -/
structure Plan where
  table : String
  filters : List Filter
  projection : String
  order : Option (String × Direction)
  singleRow : Bool
  window : Window
  operation : Operation
  deferred : Option QueryError

def plan (c : Chain) : Plan :=
  { table := c.query.table, filters := c.query.filters, projection := c.query.projection,
    order := c.query.order, singleRow := c.query.singleRow, window := c.query.window,
    operation := c.operation, deferred := c.query.deferred }

/-- The query of a plan, as if no call had been counted. -/
def Plan.query (p : Plan) : Query :=
  { table := p.table, projection := p.projection, filters := p.filters, order := p.order,
    window := p.window, singleRow := p.singleRow, deferred := p.deferred, revision := 0 }

namespace Plan

/-- The meaning of a list of calls: all conditions, the last of what is replaced, and the first
error. -/
def ofCalls (table : String) (list : List Call) : Plan :=
  { table
    filters := list.filterMap Call.filter?
    projection := (list.filterMap Call.projection?).getLast?.getD "*"
    order := (list.filterMap Call.order?).getLast?
    singleRow := list.any Call.isSingle
    window := (list.filterMap Call.window?).getLast?.getD ⟨none, none⟩
    operation := (list.filterMap Call.operation?).getLast?.getD .select
    deferred := (list.filterMap Call.error?).head? }

/-- The meaning after one more call. -/
def add (p : Plan) (call : Call) : Plan :=
  { table := p.table
    filters := p.filters ++ call.filter?.toList
    projection := call.projection?.getD p.projection
    order := call.order?.or p.order
    singleRow := p.singleRow || call.isSingle
    window := call.window?.getD p.window
    operation := call.operation?.getD p.operation
    deferred := p.deferred.or call.error? }

theorem filterMap_singleton {α β : Type} (f : α → Option β) (a : α) :
    [a].filterMap f = (f a).toList := by
  cases h : f a <;> simp [h]

theorem getLast?_concat {α : Type} (o : Option α) (list : List α) :
    (list ++ o.toList).getLast? = o.or list.getLast? := by
  cases o <;> simp

theorem ofCalls_concat (table : String) (list : List Call) (call : Call) :
    ofCalls table (list ++ [call]) = (ofCalls table list).add call := by
  have last : ∀ {α : Type} (f : Call → Option α),
      ((list ++ [call]).filterMap f).getLast? = (f call).or (list.filterMap f).getLast? := by
    intro α f
    rw [List.filterMap_append, filterMap_singleton, getLast?_concat]
  have first : ((list ++ [call]).filterMap Call.error?).head? =
      (list.filterMap Call.error?).head?.or call.error? := by
    rw [List.filterMap_append, filterMap_singleton, List.head?_append, Option.head?_toList]
  rw [ofCalls, last, last, last, last, first, List.filterMap_append, filterMap_singleton,
    List.any_append]
  simp [ofCalls, add, Option.getD_or]

end Plan

theorem normalize_eq (projection : String) : Projection.normalize projection =
    if Text.trim projection = "" then "*" else Text.trim projection := by
  simp only [Projection.normalize, Projection.everything, String.isEmpty_iff]

theorem plan_setOperation (c : Chain) (operation : Operation) :
    (c.setOperation operation).plan = { c.plan with operation } := rfl

theorem plan_setRecordOperation (c : Chain) (operation : Record → Operation) (json : Json) :
    (c.setRecordOperation operation json).plan =
      { c.plan with
        operation := ((Call.record? json).map operation).getD c.plan.operation
        deferred := c.plan.deferred.or (Call.recordError? json) } := by
  cases json with
  | obj members =>
      have hrecord : c.setRecordOperation operation (.obj members) = c.setOperation (operation
          (.ofPairs (members.map fun member => (member.1, Value.ofJson member.2)))) := rfl
      rw [hrecord, plan_setOperation]
      simp [Call.record?, Call.recordError?]
  | _ => rfl

theorem plan_range (c : Chain) (start last : UInt64) :
    (c.mapQuery (·.range start last)).plan = c.plan.add (.range start last) := by
  by_cases h : Window.Countable start last
  · have hrange : c.query.range start last = c.query.setWindow
        ⟨some (UInt64.ofNat (last.toNat - start.toNat + 1)), some start⟩ := by
      rw [Query.range, Window.ofRange?_of_countable h]
    simp [Plan.add, h, plan, mapQuery, hrange, Query.setWindow, Query.touch]
  · have hrange : c.query.range start last = c.query.defer (.invalidRange start last) := by
      rw [Query.range, Window.ofRange?_of_not_countable h]
    simp [Plan.add, h, plan, mapQuery, hrange, Query.defer, Query.touch]

/-- Each call does to the chain what it adds to the meaning. -/
theorem plan_call (c : Chain) (call : Call) : (c.call call).plan = c.plan.add call := by
  cases call with
  | select projection =>
      simp [Plan.add, plan, Chain.call, mapQuery, Query.select, Query.touch, normalize_eq]
  | compare column comparison value =>
      simp [Plan.add, plan, Chain.call, compare, mapQuery, Query.addFilter, Query.touch]
  | among column values =>
      simp [Plan.add, plan, Chain.call, mapQuery, Query.addFilter, Query.touch]
  | orderBy column direction =>
      simp [Plan.add, plan, Chain.call, orderBy, mapQuery, Query.orderBy, Query.touch]
  | limit count =>
      simp [Plan.add, plan, Chain.call, mapQuery, Query.limit, Query.setWindow, Window.first,
        Query.touch]
  | range start last => exact c.plan_range start last
  | single => simp [Plan.add, plan, Chain.call, mapQuery, Query.single, Query.touch]
  | insert record => simp [Plan.add, Chain.call, plan_setOperation]
  | insertJson json => simp [Plan.add, Chain.call, plan_setRecordOperation]
  | update record => simp [Plan.add, Chain.call, plan_setOperation]
  | updateJson json => simp [Plan.add, Chain.call, plan_setRecordOperation]
  | delete => simp [Plan.add, Chain.call, plan_setOperation]

theorem calls_concat (c : Chain) (list : List Call) (call : Call) :
    c.calls (list ++ [call]) = (c.calls list).call call := by
  rw [calls, List.foldl_append]
  rfl

theorem plan_ofTable (table : String) : (ofTable table).plan = Plan.ofCalls table [] := rfl

theorem plan_calls_ofTable (table : String) (list : List Call) :
    ((ofTable table).calls list).plan = Plan.ofCalls table list := by
  induction list using List.reverseRecOn with
  | nil => exact plan_ofTable table
  | append_singleton list call ih => rw [calls_concat, plan_call, ih, Plan.ofCalls_concat]

/-- Calls alone leave nothing in the memo. -/
theorem memo_calls_ofTable (table : String) (list : List Call) :
    ((ofTable table).calls list).memo = none := by
  induction list using List.reverseRecOn with
  | nil => rfl
  | append_singleton list call ih => rw [calls_concat, memo_call, ih]

theorem compile_of_memo_eq_none {c : Chain} (h : c.memo = none) :
    c.compile.1 = c.plan.query.compile c.plan.operation := by
  have hkept : c.kept? = none := by rw [kept?, h]
  have hquery : c.query.compile c.operation = c.plan.query.compile c.plan.operation := rfl
  rw [← hquery, Chain.compile, hkept]
  cases c.query.compile c.operation <;> rfl

/-- A chain means what its calls say, whatever their order and number: its state is told by all its
conditions, the last of what is replaced and the first error, and calls with the same meaning
compile to the same statement or the same error. -/
theorem plan_calls (table : String) (list : List Call) :
    ((ofTable table).calls list).plan = Plan.ofCalls table list ∧
      ∀ other : List Call, Plan.ofCalls table list = Plan.ofCalls table other →
        ((ofTable table).calls list).compile.1 = ((ofTable table).calls other).compile.1 := by
  refine ⟨plan_calls_ofTable table list, fun other h => ?_⟩
  rw [compile_of_memo_eq_none (memo_calls_ofTable table list),
    compile_of_memo_eq_none (memo_calls_ofTable table other), plan_calls_ofTable,
    plan_calls_ofTable, h]

/-- Calls that later ones replace leave no trace. -/
theorem calls_with_the_same_meaning :
    let list : List Call :=
      [.limit 5, .select " id ", .compare "done" .equal (.boolean true), .single, .range 0 9]
    let other : List Call :=
      [.single, .select "name", .compare "done" .equal (.boolean true), .range 0 9, .select "id"]
    Plan.ofCalls "tasks" list = Plan.ofCalls "tasks" other ∧
      ((ofTable "tasks").calls list).compile.1 = ((ofTable "tasks").calls other).compile.1 :=
  ⟨rfl, (plan_calls "tasks" _).2 _ rfl⟩

end SqlGateway.Chain
