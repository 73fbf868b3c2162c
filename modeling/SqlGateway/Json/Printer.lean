import SqlGateway.Json.Basic
import SqlGateway.Decimal.Layout

/-! JSON text: no spaces, members in their order, and only those characters escaped that a JSON
string cannot hold. -/
namespace SqlGateway.Json

/-- Doubles are positional when the leading digit lies from the fifth place after the point up to
the sixteenth before it, and always show a fraction or an exponent. -/
def layout : Decimal.Layout :=
  { tie := .toEven, positional := fun e => -5 ≤ e && e < 16, pointZero := true }

def Number.text : Number → String
  | .int n _ => toString n
  | .real x _ => layout.text x

def hexDigit (n : Nat) : Char := Nat.digitChar (n % 16)

def escapeChar (c : Char) : List Char :=
  if c = '"' then ['\\', '"']
  else if c = '\\' then ['\\', '\\']
  else if c = '\x08' then ['\\', 'b']
  else if c = '\x0c' then ['\\', 'f']
  else if c = '\n' then ['\\', 'n']
  else if c = '\r' then ['\\', 'r']
  else if c = '\t' then ['\\', 't']
  else if c.toNat < 0x20 then
    ['\\', 'u', '0', '0', hexDigit (c.toNat / 16), hexDigit c.toNat]
  else [c]

def quoted (s : String) : String := String.ofList ('"' :: s.toList.flatMap escapeChar ++ ['"'])

mutual

def write (out : String) : Json → String
  | null => out ++ "null"
  | bool true => out ++ "true"
  | bool false => out ++ "false"
  | num n => out ++ n.text
  | str s => out ++ quoted s
  | arr [] => out ++ "[]"
  | arr (x :: xs) => (writeItems (write (out.push '[') x) xs).push ']'
  | obj [] => (out.push '\x7b').push '\x7d'
  | obj ((k, x) :: xs) =>
    (writeMembers (write ((out.push '\x7b' ++ quoted k).push ':') x) xs).push '\x7d'

def writeItems (out : String) : List Json → String
  | [] => out
  | x :: xs => writeItems (write (out.push ',') x) xs

def writeMembers (out : String) : List (String × Json) → String
  | [] => out
  | (k, x) :: xs => writeMembers (write ((out.push ',' ++ quoted k).push ':') x) xs

end

def text (j : Json) : String := write "" j

end SqlGateway.Json
