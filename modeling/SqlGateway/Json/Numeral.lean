import SqlGateway.Json.Basic
import SqlGateway.Decimal.Reading

/-! Number tokens of JSON text. A token has a spelling, which the grammar alone decides, and a
value, which it lacks when it is past the range of the doubles. -/
namespace SqlGateway.Json

/-- The spelling of a number: `-12.50e+3` has sign, whole part, fraction and exponent. -/
structure Numeral where
  negative : Bool
  whole : List Char
  fraction : Option (List Char)
  exponent : Option Int
  deriving DecidableEq, Repr

namespace Numeral

/-- At least one digit, and no zero before another digit. -/
def isWhole (digits : List Char) : Bool :=
  match digits with
  | [] => false
  | '0' :: rest => rest.isEmpty
  | _ => true

def exponent? : List Char → Option (Option Int)
  | [] => some none
  | 'e' :: cs | 'E' :: cs => (Decimal.readExponent? cs).map some
  | _ => none

/-- Reads a whole token; a point needs digits on both sides. -/
def ofChars? (cs : List Char) : Option Numeral :=
  let negative := cs.head? = some '-'
  let body := if negative then cs.tail else cs
  let whole := body.takeWhile Char.isDigit
  let rest := body.dropWhile Char.isDigit
  if isWhole whole then
    if rest.head? = some '.' then
      let fraction := rest.tail.takeWhile Char.isDigit
      if fraction.isEmpty then none
      else (exponent? (rest.tail.dropWhile Char.isDigit)).map (⟨negative, whole, some fraction, ·⟩)
    else (exponent? rest).map (⟨negative, whole, none, ·⟩)
  else none

/-- Appends digits to a significand as long as it fits 64 bits, and counts those left over. -/
def absorb (significand : Nat) : List Char → Nat × Nat
  | [] => (significand, 0)
  | c :: cs =>
    if significand * 10 + Text.digitValue c < UInt64.size then
      absorb (significand * 10 + Text.digitValue c) cs
    else (significand, cs.length + 1)

def powerOfTen (n : Nat) : Float := Float.ofScientific 1 false n

/-- `x * 10 ^ e` by one multiplication or division, two where a power of ten would itself vanish.
The last bit may differ from the nearest double. -/
def scale (x : Float) (e : Int) : Option Float :=
  if e < -616 then some 0
  else if e < -308 then some (x / powerOfTen 308 / powerOfTen (-e - 308).toNat)
  else if e < 0 then some (x / powerOfTen (-e).toNat)
  else if x == 0 then some x
  else if 308 < e then none
  else
    let y := x * powerOfTen e.toNat
    if y.isInf then none else some y

def toFloat? (t : Numeral) : Option Float :=
  let fraction := t.fraction.getD []
  let (high, dropped) := absorb 0 t.whole
  let (significand, ignored) := absorb high fraction
  let exponent := t.exponent.getD 0 + dropped - (fraction.length - ignored : Nat)
  (scale (Float.ofNat significand) exponent).map fun x => if t.negative then -x else x

/-- A token of digits alone is an integer where a 64-bit range holds it. A negative zero is a
double, for its sign. -/
def value? (t : Numeral) : Option Number :=
  let magnitude := Text.natOfDigits t.whole
  if t.fraction.isNone && t.exponent.isNone && !(t.negative && magnitude = 0) then
    match Number.ofInt? (if t.negative then -(magnitude : Int) else magnitude) with
    | some n => some n
    | none => t.toFloat?.bind Number.ofFloat?
  else t.toFloat?.bind Number.ofFloat?

end Numeral

end SqlGateway.Json
