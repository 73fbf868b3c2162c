/-! The fewest decimal digits that identify a double. A double is taken apart into an exact
dyadic number, and the grids of 1, 2, ... 17 digits are searched in exact arithmetic for a point
that rounds back to it. -/
namespace SqlGateway.Decimal

/-- A positive finite double, `significand * 2 ^ exponent`. -/
structure Dyadic where
  significand : Nat
  exponent : Int
  /-- The double below is half as far away as the double above. -/
  narrowBelow : Bool

def Dyadic.ofBits (bits : UInt64) : Dyadic :=
  let exponent : Nat := bits.toNat >>> 52 % 0x800
  let fraction := bits.toNat % 0x10000000000000
  if exponent = 0 then ⟨fraction, -1074, false⟩
  else ⟨0x10000000000000 + fraction, (exponent : Int) - 1075, fraction = 0 && 1 < exponent⟩

/-- A double beside one decimal grid: `value / unit` counts the grid steps up to the double, and
`below` and `above` are the ends of the interval of reals that round to it. -/
structure Ruler where
  unit : Nat
  below : Nat
  value : Nat
  above : Nat
  closed : Bool

/-- The grid of the multiples of `10 ^ grid`. Lengths are in quarters of a last-place step. -/
def Dyadic.ruler (x : Dyadic) (grid : Int) : Ruler :=
  let quarter := x.exponent - 2
  let scale := Nat.pow 2 quarter.toNat * Nat.pow 10 (-grid).toNat
  { unit := Nat.pow 2 (-quarter).toNat * Nat.pow 10 grid.toNat
    below := (4 * x.significand - if x.narrowBelow then 1 else 2) * scale
    value := 4 * x.significand * scale
    above := (4 * x.significand + 2) * scale
    closed := x.significand % 2 = 0 }

def Ruler.holds (r : Ruler) (n : Nat) : Bool :=
  if r.closed then r.below ≤ n * r.unit && n * r.unit ≤ r.above
  else r.below < n * r.unit && n * r.unit < r.above

inductive Tie where
  | toEven
  | upward
  deriving DecidableEq, Repr

def Tie.choose (tie : Tie) (lower : Nat) : Nat :=
  match tie with
  | .upward => lower + 1
  | .toEven => if lower % 2 = 0 then lower else lower + 1

def Ruler.nearest? (r : Ruler) (tie : Tie) : Option Nat :=
  let lower := r.value / r.unit
  match r.holds lower, r.holds (lower + 1) with
  | false, false => none
  | true, false => some lower
  | false, true => some (lower + 1)
  | true, true =>
    match compare (2 * r.value) ((2 * lower + 1) * r.unit) with
    | .lt => some lower
    | .gt => some (lower + 1)
    | .eq => some (tie.choose lower)

/-- The least power of ten above the double, as an exponent. The logarithm is estimated from the
binary one, which is off by at most two. -/
def Dyadic.order (x : Dyadic) : Int :=
  let estimate := (((x.significand.log2 : Int) + x.exponent) * 30103).fdiv 100000
  let above (k : Int) : Bool := (x.ruler k).value < (x.ruler k).unit
  if above estimate then estimate
  else if above (estimate + 1) then estimate + 1
  else estimate + 2

/-- Digits `d`, `ddd` read as `d.ddd * 10 ^ exponent`. -/
structure Scientific where
  digits : List Char
  exponent : Int
  deriving DecidableEq, Repr

def Scientific.ofNat (n : Nat) (exponent : Int) : Scientific :=
  let digits := Nat.toDigits 10 n
  { digits := (digits.reverse.dropWhile (· == '0')).reverse
    exponent := exponent + digits.length - 1 }

def Dyadic.exact (x : Dyadic) : Scientific :=
  .ofNat (x.significand * Nat.pow 2 x.exponent.toNat * Nat.pow 5 (-x.exponent).toNat)
    (min x.exponent 0)

/-- The first grid with a point that rounds to the double gives the digits. Seventeen digits
suffice for every double; the exact value stands behind them. -/
def Dyadic.shortest (tie : Tie) (x : Dyadic) : Scientific :=
  let found := (List.range 17).findSome? fun (n : Nat) =>
    let grid := x.order - 1 - n
    ((x.ruler grid).nearest? tie).map (Scientific.ofNat · grid)
  found.getD x.exact

end SqlGateway.Decimal
