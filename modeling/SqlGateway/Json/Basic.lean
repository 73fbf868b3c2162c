/-! JSON values with the members of an object in the order they were written. -/
namespace SqlGateway

/-- A number is an integer of the signed or the unsigned 64-bit range, or a finite double. An
integer and a double are never the same number. -/
inductive Json.Number where
  | int (n : Int) (inRange : -0x8000000000000000 ≤ n ∧ n < 0x10000000000000000)
  | real (x : Float) (finite : x.isFinite = true)

inductive Json where
  | null
  | bool (b : Bool)
  | num (n : Json.Number)
  | str (s : String)
  | arr (items : List Json)
  | obj (members : List (String × Json))

/-- A record returned by the gateway: the members of a JSON object. -/
abbrev Row := List (String × Json)

namespace Json

def Number.beq : Number → Number → Bool
  | .int n _, .int m _ => n == m
  | .real x _, .real y _ => x == y
  | _, _ => false

instance : BEq Number := ⟨Number.beq⟩

def Number.ofInt? (n : Int) : Option Number :=
  if h : -0x8000000000000000 ≤ n ∧ n < 0x10000000000000000 then some (.int n h) else none

def Number.ofFloat? (x : Float) : Option Number :=
  if h : x.isFinite = true then some (.real x h) else none

def Number.ofInt64 (n : Int64) : Number :=
  .int n.toInt ⟨n.le_toInt, Int.lt_trans n.toInt_lt (by decide)⟩

def Number.ofUInt64 (n : UInt64) : Number :=
  .int n.toNat ⟨by omega, by have := n.toNat_lt; omega⟩

/-- A double that is not finite has no JSON number and is written as null. -/
def ofFloat (x : Float) : Json := ((Number.ofFloat? x).map num).getD null

def ofInt64 (n : Int64) : Json := num (.ofInt64 n)

def ofUInt64 (n : UInt64) : Json := num (.ofUInt64 n)

/-- An absent value is written as null. -/
def ofOption (encode : α → Json) : Option α → Json
  | none => null
  | some a => encode a

def ofStrings (texts : List String) : Json := arr (texts.map str)

def kind : Json → String
  | null => "null"
  | bool _ => "boolean"
  | num _ => "number"
  | str _ => "string"
  | arr _ => "array"
  | obj _ => "object"

def get? (j : Json) (name : String) : Option Json :=
  match j with
  | obj members => members.lookup name
  | _ => none

def asString? : Json → Option String
  | str s => some s
  | _ => none

mutual

protected def beq : Json → Json → Bool
  | null, null => true
  | bool a, bool b => a == b
  | num m, num n => m == n
  | str s, str t => s == t
  | arr xs, arr ys => beqItems xs ys
  | obj xs, obj ys => beqMembers xs ys
  | _, _ => false

def beqItems : List Json → List Json → Bool
  | [], [] => true
  | x :: xs, y :: ys => Json.beq x y && beqItems xs ys
  | _, _ => false

def beqMembers : List (String × Json) → List (String × Json) → Bool
  | [], [] => true
  | (k, x) :: xs, (l, y) :: ys => k == l && Json.beq x y && beqMembers xs ys
  | _, _ => false

end

/-- Doubles are compared as numbers, so a zero equals its negative. -/
instance : BEq Json := ⟨Json.beq⟩

end Json

end SqlGateway
