import SqlGateway.Decimal.Shortest

/-! How the digits of a double are laid out as text. Each format that writes doubles states its
decisions as one `Layout`. -/
namespace SqlGateway.Decimal

structure Layout where
  tie : Tie
  /-- Whether a leading digit of this weight is written positionally. -/
  positional : Int → Bool
  pointZero : Bool

def zeros (n : Int) : List Char := List.replicate n.toNat '0'

def Layout.plain (layout : Layout) (s : Scientific) : List Char :=
  let whole := (s.exponent + 1).toNat
  if s.exponent < 0 then '0' :: '.' :: (zeros (-s.exponent - 1) ++ s.digits)
  else if s.digits.length ≤ whole then
    s.digits ++ zeros (whole - s.digits.length) ++ if layout.pointZero then ['.', '0'] else []
  else s.digits.take whole ++ '.' :: s.digits.drop whole

def scientificText (s : Scientific) : List Char :=
  s.digits.take 1 ++ (if s.digits.length ≤ 1 then [] else '.' :: s.digits.drop 1) ++
    'e' :: (if s.exponent < 0 then '-' else '+') :: Nat.toDigits 10 s.exponent.natAbs

def Layout.unsigned (layout : Layout) (s : Scientific) : List Char :=
  if layout.positional s.exponent then layout.plain s else scientificText s

/-- The text of a finite double; the sign of a zero is kept. -/
def Layout.text (layout : Layout) (x : Float) : String :=
  let bits := x.toBits
  let dyadic := Dyadic.ofBits bits
  let digits := if dyadic.significand = 0 then ⟨['0'], 0⟩ else dyadic.shortest layout.tie
  String.ofList ((if 0x8000000000000000 ≤ bits.toNat then ['-'] else []) ++ layout.unsigned digits)

end SqlGateway.Decimal
