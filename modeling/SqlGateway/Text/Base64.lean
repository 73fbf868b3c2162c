/-! Bytes as text of 64 characters: three bytes give four characters, and equals signs fill up the
last group. -/
namespace SqlGateway.Text

/-- Letters, small letters, digits and two signs stand for six bits each. -/
def base64Char (bits : Nat) : Char :=
  if bits < 26 then Char.ofNat ('A'.toNat + bits)
  else if bits < 52 then Char.ofNat ('a'.toNat + (bits - 26))
  else if bits < 62 then Char.ofNat ('0'.toNat + (bits - 52))
  else if bits = 62 then '+'
  else '/'

def base64Group (bits count : Nat) : List Char :=
  [base64Char (bits >>> 18), base64Char (bits >>> 12 % 64), base64Char (bits >>> 6 % 64),
    base64Char (bits % 64)].take count

def base64 : List UInt8 → List Char
  | [] => []
  | [a] => base64Group (a.toNat <<< 16) 2 ++ ['=', '=']
  | [a, b] => base64Group ((a.toNat <<< 16) + (b.toNat <<< 8)) 3 ++ ['=']
  | a :: b :: c :: rest =>
    base64Group ((a.toNat <<< 16) + (b.toNat <<< 8) + c.toNat) 4 ++ base64 rest

end SqlGateway.Text
