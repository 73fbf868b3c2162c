import SqlGateway.Query.Record

/-! Conditions on rows and the order of rows. -/
namespace SqlGateway

inductive Direction where
  | ascending
  | descending
  deriving DecidableEq, Repr

namespace Direction

def ofAscending (ascending : Bool) : Direction := if ascending then .ascending else .descending

def sql : Direction → String
  | ascending => "ASC"
  | descending => "DESC"

def names : List (String × Direction) := [("Asc", ascending), ("Desc", descending)]

def encode : Direction → Json
  | ascending => .str "Asc"
  | descending => .str "Desc"

def decode : Json.Decoder Direction := Json.Decoder.oneOf names

end Direction

/-- Rows ascend unless told otherwise. -/
structure OrderOptions where
  ascending : Bool := true
  deriving DecidableEq, Repr

inductive Comparison where
  | equal
  | notEqual
  | like
  deriving DecidableEq, Repr

namespace Comparison

def sql : Comparison → String
  | equal => "="
  | notEqual => "!="
  | like => "LIKE"

def names : List (String × Comparison) := [("Eq", equal), ("Ne", notEqual), ("Like", like)]

def encode : Comparison → Json
  | equal => .str "Eq"
  | notEqual => .str "Ne"
  | like => .str "Like"

def decode : Json.Decoder Comparison := Json.Decoder.oneOf names

end Comparison

/-- One condition; the rows of a query satisfy all of its conditions. -/
inductive Filter where
  | compare (column : String) (comparison : Comparison) (value : Value)
  /-- The column holds one of the values; no row does if there are none. -/
  | among (column : String) (values : List Value)

namespace Filter

def column : Filter → String
  | compare column _ _ => column
  | among column _ => column

/-- The values that the condition binds, in order. -/
def values : Filter → List Value
  | compare _ _ value => [value]
  | among _ values => values

def encode : Filter → Json
  | compare column comparison value =>
    .obj [("Compare", .obj [("column", .str column), ("op", comparison.encode),
      ("value", value.encode)])]
  | among column values =>
    .obj [("In", .obj [("column", .str column), ("values", .arr (values.map Value.encode))])]

open Json (Decoder)

def decodeCompare : Decoder Filter :=
  Decoder.struct ["column", "op", "value"] fun room slots =>
    match slots with
    | [column, comparison, value] => do
      return compare (← column.required Decoder.string room)
        (← comparison.required Comparison.decode room) (← value.required Value.decode room)
    | _ => none

def decodeAmong : Decoder Filter :=
  Decoder.struct ["column", "values"] fun room slots =>
    match slots with
    | [column, values] => do
      return among (← column.required Decoder.string room)
        (← values.required (Decoder.list Value.decode) room)
    | _ => none

def decode : Decoder Filter := fun room d =>
  match Decoder.alternative? room d with
  | some (.carrying "Compare" content) => decodeCompare (room - 1) content
  | some (.carrying "In" content) => decodeAmong (room - 1) content
  | _ => none

end Filter

end SqlGateway
