import SqlGateway.Value

/-! What host values and JSON values are bound as. -/
namespace SqlGateway.Value

def ofInt32 (n : Int32) : Value := integer (Int64.ofInt n.toInt)

def ofUInt32 (n : UInt32) : Value := integer (Int64.ofInt n.toNat)

/-- Integers past the signed range are bound as the text of their digits, to be cast to the type
of the column. -/
def ofUInt64 (n : UInt64) : Value :=
  if n.toNat < 0x8000000000000000 then integer (Int64.ofInt n.toNat) else text (toString n.toNat)

def ofFloat32 (x : Float32) : Value := float x.toFloat

def ofOption (bind : α → Value) : Option α → Value
  | none => null
  | some a => bind a

/-- JSON scalars are bound as plain values, containers as JSON. An integer past the signed range
becomes the nearest double. -/
def ofJson : Json → Value
  | .null => null
  | .bool b => boolean b
  | .num (.int n _) =>
    if n < 0x8000000000000000 then integer (Int64.ofInt n) else float (Float.ofInt n)
  | .num (.real x _) => float x
  | .str s => text s
  | .arr items => json (.arr items)
  | .obj members => json (.obj members)

end SqlGateway.Value
