import SqlGateway.Query
import SqlGateway.Statement

/-! From a query and an operation to a statement. All checks come first, in a fixed order; the
clauses of the statement follow in a fixed order too, and an absent clause leaves no trace. -/
namespace SqlGateway

/-- What a chain does with the rows that its query describes. -/
inductive Operation where
  | select
  | insert (record : Record)
  | update (record : Record)
  | delete

def Operation.command : Operation → Command
  | select => .select
  | insert _ => .insert
  | update _ => .update
  | delete => .delete

namespace Query

def checkName (role : NameRole) (name : String) : Except QueryError Unit :=
  if Identifier.accepts name then .ok () else .error (.invalidName role name)

def checkColumns : List String → Except QueryError Unit
  | [] => .ok ()
  | column :: rest => do
    checkName .column column
    checkColumns rest

def checkProjection (projection : String) : Except QueryError Unit :=
  if Projection.accepts projection then .ok () else .error (.invalidName .projection projection)

/-- Row counts are signed 64-bit numbers on the other side. -/
def checkRowCount (clause : RowClause) : Option UInt64 → Except QueryError Unit
  | none => .ok ()
  | some n =>
    if n.toNat < 0x8000000000000000 then .ok () else .error (.invalidQuery (.rowCount clause n))

def checkRecord (purpose : RecordUse) (record : Record) : Except QueryError Unit :=
  if record.isEmpty then .error (.invalidQuery (.noColumns purpose))
  else checkColumns record.columns

def checkParameterCount (count : Nat) : Except QueryError Unit :=
  if maxParameters < count then .error (.invalidQuery (.parameterCount count)) else .ok ()

def checkSelection (q : Query) : Except QueryError Unit := do
  checkProjection q.projection
  checkColumns (q.order.toList.map Prod.fst)
  checkRowCount .limit q.effectiveLimit
  checkRowCount .offset q.effectiveOffset

def checkOperation (q : Query) : Operation → Except QueryError Unit
  | .select => q.checkSelection
  | .insert record => checkRecord .insert record
  | .update record => checkRecord .update record
  | .delete => .ok ()

def filterValues (q : Query) : List Value := q.filters.flatMap Filter.values

/-- The values that a statement binds, in the order in which it binds them. -/
def boundValues (q : Query) : Operation → List Value
  | .select => q.filterValues
  | .insert record => record.values
  | .update record => record.values ++ q.filterValues
  | .delete => q.filterValues

/-- The first fault found, if there is one. -/
def check (q : Query) (operation : Operation) : Except QueryError Unit := do
  if let some e := q.deferred then throw e
  checkName .table q.table
  checkColumns (q.filters.map Filter.column)
  q.checkOperation operation
  checkParameterCount (q.boundValues operation).length

/-- Lists of fragments with a separator between them. -/
def separate (separator : String) (parts : List (List Fragment)) : List Fragment :=
  (parts.intersperse [.text separator]).flatten

def bindList (values : List Value) : List Fragment :=
  separate ", " (values.map fun v => [.bind v])

/-- A condition without values is never met. -/
def filterFragments : Filter → List Fragment
  | .compare column comparison value =>
    [.text column, .text " ", .text comparison.sql, .text " ", .bind value]
  | .among _ [] => [.text "FALSE"]
  | .among column values => .text column :: .text " IN (" :: (bindList values ++ [.text ")"])

def whereClause (q : Query) : List Fragment :=
  if q.filters.isEmpty then []
  else .text " WHERE " :: separate " AND " (q.filters.map filterFragments)

def orderClause (q : Query) : List Fragment :=
  match q.order with
  | none => []
  | some (column, direction) => [.text " ORDER BY ", .text column, .text " ", .text direction.sql]

def rowCountClause (keyword : String) : Option UInt64 → List Fragment
  | none => []
  | some n => [.text keyword, .text (toString n.toNat)]

def assignment (field : String × Value) : List Fragment :=
  [.text field.1, .text " = ", .bind field.2]

def returning : Fragment := .text " RETURNING *"

def fragments (q : Query) : Operation → List Fragment
  | .select =>
    [.text "SELECT ", .text q.projection, .text " FROM ", .text q.table] ++ q.whereClause ++
      q.orderClause ++ rowCountClause " LIMIT " q.effectiveLimit ++
      rowCountClause " OFFSET " q.effectiveOffset
  | .insert record =>
    [.text "INSERT INTO ", .text q.table, .text " ("] ++
      separate ", " (record.columns.map fun column => [.text column]) ++
      [.text ") VALUES ("] ++ bindList record.values ++ [.text ")", returning]
  | .update record =>
    [.text "UPDATE ", .text q.table, .text " SET "] ++
      separate ", " (record.fields.map assignment) ++ q.whereClause ++ [returning]
  | .delete =>
    [.text "DELETE FROM ", .text q.table] ++ q.whereClause ++ [returning]

/-- Updates and deletions without conditions reach every row. -/
def compile (q : Query) (operation : Operation) : Except QueryError Statement := do
  q.check operation
  return { command := operation.command, fragments := q.fragments operation }

end Query

end SqlGateway
