import SqlGateway.Text.Numeral

/-! Decimal texts as floating-point numbers: `12`, `-0.5`, `.5e-3`, `inf`, `NaN`. -/
namespace SqlGateway.Decimal

/-- The number `digits * 10 ^ exponent`. -/
structure Scaled where
  digits : Nat
  exponent : Int
  deriving DecidableEq, Repr

/-- Digits after an optional sign. -/
def readExponent? : List Char → Option Int
  | '-' :: cs => (magnitude? cs).map fun (n : Nat) => -(n : Int)
  | '+' :: cs => (magnitude? cs).map fun (n : Nat) => (n : Int)
  | cs => (magnitude? cs).map fun (n : Nat) => (n : Int)
where
  magnitude? (cs : List Char) : Option Nat :=
    if cs.isEmpty || cs.any (!·.isDigit) then none else some (Text.natOfDigits cs)

/-- Digits with at most one point among or beside them, and an optional exponent. -/
def readScaled? (cs : List Char) : Option Scaled :=
  let whole := cs.takeWhile Char.isDigit
  let rest := cs.dropWhile Char.isDigit
  let fraction := if rest.head? = some '.' then rest.tail.takeWhile Char.isDigit else []
  let rest := if rest.head? = some '.' then rest.tail.dropWhile Char.isDigit else rest
  if whole.isEmpty && fraction.isEmpty then none
  else
    let scaled (e : Int) : Scaled := ⟨Text.natOfDigits (whole ++ fraction), e - fraction.length⟩
    match rest with
    | [] => some (scaled 0)
    | 'e' :: cs | 'E' :: cs => (readExponent? cs).map scaled
    | _ => none

/-- Numbers whose leading digit is far outside every binary range are decided by it alone; the
powers of ten of the others stay small. -/
inductive Magnitude where
  | vanishing
  | ordinary
  | overwhelming
  deriving DecidableEq, Repr

def Scaled.magnitude (d : Scaled) : Magnitude :=
  let order := (Nat.toDigits 10 d.digits).length + d.exponent
  if d.digits = 0 || order < -400 then .vanishing
  else if 400 < order then .overwhelming
  else .ordinary

def Scaled.toFloat (d : Scaled) : Float :=
  match d.magnitude with
  | .vanishing => 0
  | .overwhelming => 1 / 0
  | .ordinary => Float.ofScientific d.digits (d.exponent < 0) d.exponent.natAbs

def Scaled.toFloat32 (d : Scaled) : Float32 :=
  match d.magnitude with
  | .vanishing => 0
  | .overwhelming => 1 / 0
  | .ordinary => Float32.ofScientific d.digits (d.exponent < 0) d.exponent.natAbs

/-- A decimal number or one of the names of the special values, in any letter case. -/
inductive Reading where
  | number (d : Scaled)
  | infinity
  | notANumber
  deriving DecidableEq, Repr

def readUnsigned? (cs : List Char) : Option Reading :=
  let name := String.ofList (cs.map Char.toLower)
  if name = "inf" || name = "infinity" then some .infinity
  else if name = "nan" then some .notANumber
  else (readScaled? cs).map .number

def Reading.toFloat : Reading → Float
  | .number d => d.toFloat
  | .infinity => 1 / 0
  | .notANumber => 0 / 0

def Reading.toFloat32 : Reading → Float32
  | .number d => d.toFloat32
  | .infinity => 1 / 0
  | .notANumber => 0 / 0

def readFloat? (s : String) : Option Float :=
  match s.toList with
  | '-' :: cs => (readUnsigned? cs).map fun r => -r.toFloat
  | '+' :: cs => (readUnsigned? cs).map Reading.toFloat
  | cs => (readUnsigned? cs).map Reading.toFloat

def readFloat32? (s : String) : Option Float32 :=
  match s.toList with
  | '-' :: cs => (readUnsigned? cs).map fun r => -r.toFloat32
  | '+' :: cs => (readUnsigned? cs).map Reading.toFloat32
  | cs => (readUnsigned? cs).map Reading.toFloat32

end SqlGateway.Decimal
