import SqlGateway.Projection
import SqlGateway.Query.Filter

/-! A query as a chain of calls builds it up. Later calls add conditions, replace the projection,
the order and the window, and never undo a recorded error. -/
namespace SqlGateway

/-- Which rows are kept: at most `limit`, after the first `offset`. -/
structure Window where
  limit : Option UInt64
  offset : Option UInt64
  deriving DecidableEq, Repr

namespace Window

def unbounded : Window := ⟨none, none⟩

def first (limit : UInt64) : Window := ⟨some limit, none⟩

/-- The rows at positions `start` to `last`, both included; their number must fit 64 bits. -/
def ofRange? (start last : UInt64) : Option Window :=
  if last < start then none
  else if last - start = UInt64.ofNat (UInt64.size - 1) then none
  else some ⟨some (last - start + 1), some start⟩

end Window

structure Query where
  table : String
  projection : String
  filters : List Filter
  order : Option (String × Direction)
  window : Window
  singleRow : Bool
  /-- The first error of a call that could not be carried out. -/
  deferred : Option QueryError
  /-- Counts the calls that have touched the query, modulo `2 ^ 64`. -/
  revision : UInt64

namespace Query

def ofTable (table : String) : Query :=
  { table, projection := Projection.everything, filters := [], order := none,
    window := .unbounded, singleRow := false, deferred := none, revision := 0 }

def touch (q : Query) : Query := { q with revision := q.revision + 1 }

def select (q : Query) (projection : String) : Query :=
  { q with projection := Projection.normalize projection }.touch

def addFilter (q : Query) (f : Filter) : Query := { q with filters := q.filters ++ [f] }.touch

def orderBy (q : Query) (column : String) (direction : Direction) : Query :=
  { q with order := some (column, direction) }.touch

def setWindow (q : Query) (window : Window) : Query := { q with window }.touch

/-- Records an error unless there is one already. -/
def defer (q : Query) (e : QueryError) : Query :=
  { q with deferred := q.deferred.or (some e) }.touch

def limit (q : Query) (count : UInt64) : Query := q.setWindow (.first count)

def range (q : Query) (start last : UInt64) : Query :=
  match Window.ofRange? start last with
  | some window => q.setWindow window
  | none => q.defer (.invalidRange start last)

def single (q : Query) : Query := { q with singleRow := true }.touch

/-- A query for a single row has the limit one, whatever its window. -/
def effectiveLimit (q : Query) : Option UInt64 := if q.singleRow then some 1 else q.window.limit

/-- An offset of zero is left out. -/
def effectiveOffset (q : Query) : Option UInt64 := q.window.offset.filter (0 < ·)

end Query

end SqlGateway
