import SqlGateway.Query.Compile

/-! Chains of calls on one table. A chain keeps the last statement it compiled and the revisions
it was compiled at, and compiles again only when a call has come since. -/
namespace SqlGateway

structure Revisions where
  query : UInt64
  operation : UInt64
  deriving DecidableEq, Repr

/-- A compiled statement and the state of the chain it belongs to. -/
structure Memo where
  revisions : Revisions
  statement : Statement

structure Chain where
  query : Query
  operation : Operation
  /-- Counts the calls that have set the operation, modulo `2 ^ 64`. -/
  operationRevision : UInt64
  memo : Option Memo

namespace Chain

inductive Call where
  | select (projection : String)
  | compare (column : String) (comparison : Comparison) (value : Value)
  | among (column : String) (values : List Value)
  | orderBy (column : String) (direction : Direction)
  | limit (count : UInt64)
  | range (start last : UInt64)
  | single
  | insert (record : Record)
  | insertJson (json : Json)
  | update (record : Record)
  | updateJson (json : Json)
  | delete

def ofTable (table : String) : Chain :=
  { query := .ofTable table, operation := .select, operationRevision := 0, memo := none }

def setOperation (c : Chain) (operation : Operation) : Chain :=
  { c with operation, operationRevision := c.operationRevision + 1 }

def mapQuery (c : Chain) (f : Query → Query) : Chain := { c with query := f c.query }

/-- An operation on a record that may turn out to be none, which is then recorded as an error. -/
def setRecordOperation (c : Chain) (operation : Record → Operation) (json : Json) : Chain :=
  match Record.ofJson json with
  | .ok record => c.setOperation (operation record)
  | .error e => c.mapQuery (·.defer e)

def compare (c : Chain) (column : String) (comparison : Comparison) (value : Value) : Chain :=
  c.mapQuery (·.addFilter (.compare column comparison value))

def eq (c : Chain) (column : String) (value : Value) : Chain := c.compare column .equal value

def equals (c : Chain) (column : String) (value : Value) : Chain := c.eq column value

def neq (c : Chain) (column : String) (value : Value) : Chain := c.compare column .notEqual value

def notEquals (c : Chain) (column : String) (value : Value) : Chain := c.neq column value

/-- The pattern is bound as it is, and its wildcards keep their meaning. -/
def like (c : Chain) (column pattern : String) : Chain := c.compare column .like (.text pattern)

def orderBy (c : Chain) (column : String) (direction : Direction) : Chain :=
  c.mapQuery (·.orderBy column direction)

def order (c : Chain) (column : String) (options : OrderOptions) : Chain :=
  c.orderBy column (.ofAscending options.ascending)

def call (c : Chain) : Call → Chain
  | .select projection => c.mapQuery (·.select projection)
  | .compare column comparison value => c.compare column comparison value
  | .among column values => c.mapQuery (·.addFilter (.among column values))
  | .orderBy column direction => c.orderBy column direction
  | .limit count => c.mapQuery (·.limit count)
  | .range start last => c.mapQuery (·.range start last)
  | .single => c.mapQuery Query.single
  | .insert record => c.setOperation (.insert record)
  | .insertJson json => c.setRecordOperation .insert json
  | .update record => c.setOperation (.update record)
  | .updateJson json => c.setRecordOperation .update json
  | .delete => c.setOperation .delete

def calls (c : Chain) (list : List Call) : Chain := list.foldl call c

def revisions (c : Chain) : Revisions := ⟨c.query.revision, c.operationRevision⟩

/-- The statement kept from an earlier compilation, if no call has come since. -/
def kept? (c : Chain) : Option Statement :=
  match c.memo with
  | some memo => if memo.revisions = c.revisions then some memo.statement else none
  | none => none

/-- The statement of the chain, and the chain that keeps it. After a failure the chain keeps what
it kept before. -/
def compile (c : Chain) : Except QueryError Statement × Chain :=
  match c.kept? with
  | some statement => (.ok statement, c)
  | none =>
    match c.query.compile c.operation with
    | .ok statement => (.ok statement, { c with memo := some ⟨c.revisions, statement⟩ })
    | .error e => (.error e, c)

end Chain

end SqlGateway
