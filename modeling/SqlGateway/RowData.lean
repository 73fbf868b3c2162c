import SqlGateway.Failure
import SqlGateway.Json.Decoder
import SqlGateway.Statement

/-! The data of a chain: all rows, or the one row that was asked for. -/
namespace SqlGateway

inductive RowData where
  | rows (all : List Row)
  | row (r : Row)

namespace RowData

def toRows : RowData → List Row
  | rows all => all
  | row r => [r]

def asRow? : RowData → Option Row
  | row r => some r
  | rows _ => none

/-- A query for a single row and an insertion give the first row or nothing, everything else
gives all rows. -/
def shape (command : Command) (singleRow : Bool) (all : List Row) : Option RowData :=
  if singleRow || command = .insert then all.head?.map row else some (rows all)

/-- Rows are written as an array, a row as an object. -/
def encode : RowData → Json
  | rows all => .arr (all.map Json.obj)
  | row r => .obj r

open Json (Decoder Document)

def ofJson? : Json → Option RowData
  | .obj members => some (row members)
  | .arr items => (items.mapM asObject?).map rows
  | _ => none
where
  asObject? : Json → Option Row
    | .obj members => some members
    | _ => none

/-- The text is read as a free-form value first, so its parts must all have values. -/
def decode : Decoder RowData := fun room d => (Json.ofDocument? room d).bind ofJson?

mutual

def depth : Json → Nat
  | .arr items => depthItems items + 1
  | .obj members => depthMembers members + 1
  | _ => 0

def depthItems : List Json → Nat
  | [] => 0
  | j :: rest => max (depth j) (depthItems rest)

def depthMembers : List (String × Json) → Nat
  | [] => 0
  | (_, j) :: rest => max (depth j) (depthMembers rest)

end

/-- A row as a structure. A row in memory may be nested as deep as it is. -/
def decodeRow (decode : Decoder α) (r : Row) : Except Failure α :=
  match decode (depth (.obj r)) (Document.ofJson (.obj r)) with
  | some a => .ok a
  | none => .error (.decode .row)

/-- All rows as structures; the first failure counts. -/
def decodeRows (decode : Decoder α) (data : RowData) : Except Failure (List α) :=
  data.toRows.mapM (decodeRow decode)

def decodeOne (decode : Decoder α) (data : RowData) : Except Failure (Option α) :=
  match data.toRows with
  | [] => .ok none
  | r :: _ => (decodeRow decode r).map some

end RowData

end SqlGateway
