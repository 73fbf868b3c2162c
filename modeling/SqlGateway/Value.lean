import SqlGateway.Json.Printer

/-! Values bound to a statement. A value reaches the gateway as a positional parameter, in its
wire form; its SQL literal is for display only. -/
namespace SqlGateway

inductive Value where
  | null
  | boolean (b : Bool)
  | integer (n : Int64)
  | float (x : Float)
  | text (s : String)
  | array (items : List Value)
  | json (j : Json)

namespace Value

def kind : Value → String
  | null => "Null"
  | boolean _ => "Boolean"
  | integer _ => "Integer"
  | float _ => "Float"
  | text _ => "Text"
  | array _ => "Array"
  | json _ => "Json"

def isNull : Value → Bool
  | null => true
  | _ => false

/-- Doubles in literals never show an exponent, and of two equally near decimals the upper one
is written. -/
def floatLayout : Decimal.Layout :=
  { tie := .upward, positional := fun _ => true, pointZero := false }

/-- The name of a double that is not finite. -/
def nonFiniteName (x : Float) : String :=
  if x.isNaN then "NaN" else if x < 0 then "-Infinity" else "Infinity"

/-- A quote inside quoted text is written twice. -/
def quoteChar (c : Char) : List Char := if c = '\'' then ['\'', '\''] else [c]

def quote (s : String) : String :=
  String.ofList ('\'' :: s.toList.flatMap quoteChar ++ ['\''])

mutual

def literal : Value → String
  | null => "NULL"
  | boolean true => "TRUE"
  | boolean false => "FALSE"
  | integer n => toString n.toInt
  | float x => if x.isFinite then floatLayout.text x else quote (nonFiniteName x)
  | text s => quote s
  | array items => "ARRAY[" ++ ", ".intercalate (literals items) ++ "]"
  | json j => quote j.text ++ "::jsonb"

def literals : List Value → List String
  | [] => []
  | v :: rest => literal v :: literals rest

end

mutual

/-- The form sent to the gateway. A double that is not finite is sent as its name. -/
def wire : Value → Json
  | null => .null
  | boolean b => .bool b
  | integer n => .ofInt64 n
  | float x =>
    match Json.Number.ofFloat? x with
    | some number => .num number
    | none => .str (nonFiniteName x)
  | text s => .str s
  | array items => .arr (wires items)
  | json j => j

def wires : List Value → List Json
  | [] => []
  | v :: rest => wire v :: wires rest

end

mutual

protected def beq : Value → Value → Bool
  | null, null => true
  | boolean a, boolean b => a == b
  | integer n, integer m => n == m
  | float x, float y => x == y
  | text s, text t => s == t
  | array xs, array ys => beqItems xs ys
  | json j, json k => j == k
  | _, _ => false

def beqItems : List Value → List Value → Bool
  | [], [] => true
  | x :: xs, y :: ys => Value.beq x y && beqItems xs ys
  | _, _ => false

end

/-- Doubles are compared as numbers, so a value that holds a NaN differs from itself. -/
instance : BEq Value := ⟨Value.beq⟩

end Value

end SqlGateway
