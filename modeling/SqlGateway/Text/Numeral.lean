/-! Digits, and unsigned 64-bit numbers in decimal: an optional plus sign and at least one digit.
Such a number is read from the left, and the first thing that is wrong is the one reported. -/
namespace SqlGateway.Text

inductive NumeralError where
  | empty
  | badDigit
  | tooLarge
  deriving DecidableEq, Repr

def NumeralError.message : NumeralError → String
  | .empty => "cannot parse integer from empty string"
  | .badDigit => "invalid digit found in string"
  | .tooLarge => "number too large to fit in target type"

def digitValue (c : Char) : Nat := c.toNat - '0'.toNat

/-- The number that ASCII digits stand for; nothing stands for zero. -/
def natOfDigits (cs : List Char) : Nat := cs.foldl (fun value c => value * 10 + digitValue c) 0

def hexValue? (c : Char) : Option Nat :=
  if c.isDigit then some (digitValue c)
  else if 'a' ≤ c && c ≤ 'f' then some (c.toNat - 'a'.toNat + 10)
  else if 'A' ≤ c && c ≤ 'F' then some (c.toNat - 'A'.toNat + 10)
  else none

def readNumber? (base : Nat) (cs : List Char) : Option Nat :=
  cs.foldlM (fun value c =>
    (hexValue? c).bind fun d => if d < base then some (value * base + d) else none) 0

/-- Appends digits to a number already read; every value on the way stays below `2 ^ 64`. -/
def readDigits (value : Nat) : List Char → Except NumeralError Nat
  | [] => .ok value
  | c :: cs =>
    if c.isDigit then
      if value * 10 + digitValue c < UInt64.size then readDigits (value * 10 + digitValue c) cs
      else .error .tooLarge
    else .error .badDigit

/-- A lone sign has no digits, and a minus sign is never one. -/
def readNumeral : List Char → Except NumeralError Nat
  | [] => .error .empty
  | ['+'] => .error .badDigit
  | '+' :: cs => readDigits 0 cs
  | cs => readDigits 0 cs

def readUInt64 (s : String) : Except NumeralError UInt64 :=
  (readNumeral s.toList).map UInt64.ofNat

end SqlGateway.Text
