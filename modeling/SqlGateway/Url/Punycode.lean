/-! The ASCII form of a label of a domain name: the ASCII characters as they are, then, for every
other character in ascending order, the distance to it as a number of variable length. -/
namespace SqlGateway.Url.Punycode

/-- Digits 0 to 25 are letters, 26 to 35 are decimal digits. -/
def digitChar (d : Nat) : Char :=
  if d < 26 then Char.ofNat ('a'.toNat + d) else Char.ofNat ('0'.toNat + (d - 26))

def digitValue? (c : Char) : Option Nat :=
  if 'a' ≤ c && c ≤ 'z' then some (c.toNat - 'a'.toNat)
  else if 'A' ≤ c && c ≤ 'Z' then some (c.toNat - 'A'.toNat)
  else if c.isDigit then some (c.toNat - '0'.toNat + 26)
  else none

/-- The least value of a digit that is not the last one. -/
def threshold (position bias : Nat) : Nat :=
  if position ≤ bias + 1 then 1 else if bias + 26 ≤ position then 26 else position - bias

theorem threshold_bounds (position bias : Nat) :
    1 ≤ threshold position bias ∧ threshold position bias ≤ 26 := by
  unfold threshold
  split
  · omega
  · split <;> omega

def reduce (delta steps : Nat) : Nat :=
  if 455 < delta then reduce (delta / 35) (steps + 36) else steps + 36 * delta / (delta + 38)
termination_by delta
decreasing_by exact Nat.div_lt_self (by omega) (by omega)

/-- The bias for the next distance, from the last one and the number of characters in place. -/
def adapt (delta count : Nat) (isFirst : Bool) : Nat :=
  let delta := if isFirst then delta / 700 else delta / 2
  reduce (delta + delta / count) 0

def writeNumber (bias position n : Nat) : List Char :=
  let t := threshold position bias
  if n < t then [digitChar n]
  else digitChar (t + (n - t) % (36 - t)) :: writeNumber bias (position + 36) ((n - t) / (36 - t))
termination_by n
decreasing_by
  have bounds := threshold_bounds position bias
  exact Nat.lt_of_le_of_lt (Nat.div_le_self _ _) (by omega)

/-- The state of writing: what is written, the distance walked since, and the characters placed. -/
structure Writer where
  out : List Char
  delta : Nat
  bias : Nat
  placed : Nat

def Writer.visit (ascii code : Nat) (w : Writer) (c : Char) : Writer :=
  if c.toNat < code then { w with delta := w.delta + 1 }
  else if c.toNat = code then
    { out := w.out ++ writeNumber w.bias 36 w.delta, delta := 0,
      bias := adapt w.delta (w.placed + 1) (w.placed == ascii), placed := w.placed + 1 }
  else w

def isAscii (c : Char) : Bool := c.toNat < 0x80

def foreignCodes (label : List Char) : List Nat :=
  ((label.filter (!isAscii ·)).map Char.toNat).mergeSort.eraseDups

def encode (label : List Char) : List Char :=
  let basic := label.filter isAscii
  let start : Writer := ⟨[], 0, 72, basic.length⟩
  let place (state : Writer × Nat) (code : Nat) : Writer × Nat :=
    let (w, next) := state
    let w := { w with delta := w.delta + (code - next) * (w.placed + 1) }
    let w := label.foldl (Writer.visit basic.length code) w
    ({ w with delta := w.delta + 1 }, code + 1)
  let (w, _) := (foreignCodes label).foldl place (start, 0x80)
  basic ++ (if basic.isEmpty then [] else ['-']) ++ w.out

/-- The state of reading: the label so far, the last code point and place, and the number being
read with its weight and position. -/
structure Reader where
  label : List Char
  code : Nat
  place : Nat
  bias : Nat
  distance : Nat
  weight : Nat
  position : Nat

def Reader.start (basic : List Char) : Reader := ⟨basic, 0x80, 0, 72, 0, 1, 36⟩

def Reader.visit (r : Reader) (c : Char) : Option Reader := do
  let digit ← digitValue? c
  let distance := r.distance + digit * r.weight
  if UInt32.size ≤ r.weight || UInt32.size ≤ distance then none
  let t := threshold r.position r.bias
  if t ≤ digit then
    return { r with distance, weight := r.weight * (36 - t), position := r.position + 36 }
  let count := r.label.length + 1
  let place := r.place + distance
  let code := r.code + place / count
  if 0x10ffff < code || (0xd800 ≤ code && code < 0xe000) then none
  else
    return {
      label := r.label.take (place % count) ++ Char.ofNat code :: r.label.drop (place % count)
      code, place := place % count + 1, bias := adapt distance count (r.place == 0)
      distance := 0, weight := 1, position := 36 }

/-- The part after the last hyphen holds the numbers; a hyphen comes only behind characters. -/
def decode? (text : List Char) : Option (List Char) := do
  let numbers := (text.reverse.takeWhile (· != '-')).reverse
  if text.length = numbers.length + 1 then none
  let basic := text.take (text.length - numbers.length - 1)
  let r ← numbers.foldlM Reader.visit (.start basic)
  if r.weight = 1 && r.distance = 0 && basic.all isAscii then some r.label else none

end SqlGateway.Url.Punycode
