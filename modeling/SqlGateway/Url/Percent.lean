import SqlGateway.Text.Numeral

/-! Percent-encoding: a percent sign and two hexadecimal digits stand for a byte. Each part of an
address has its own set of characters that are always written so. -/
namespace SqlGateway.Url

/-- Characters that are encoded besides the controls and everything outside ASCII. -/
abbrev EncodeSet := Char → Bool

def fragmentSet : EncodeSet := fun c => c == ' ' || c == '"' || c == '<' || c == '>' || c == '\x60'

def pathSet : EncodeSet := fun c =>
  fragmentSet c || c == '#' || c == '?' || c == '\x7b' || c == '\x7d'

def userinfoSet : EncodeSet := fun c =>
  pathSet c || c == '/' || c == ':' || c == ';' || c == '=' || c == '@' || c == '[' || c == '\\' ||
  c == ']' || c == '^' || c == '|'

def querySet : EncodeSet := fun c =>
  c == ' ' || c == '"' || c == '#' || c == '<' || c == '>' || c == '\''

def upperHexDigit (n : Nat) : Char := (Nat.digitChar (n % 16)).toUpper

def encodeByte (b : UInt8) : List Char :=
  ['%', upperHexDigit (b.toNat / 16), upperHexDigit b.toNat]

def utf8Bytes (c : Char) : List UInt8 := (String.singleton c).toUTF8.toList

def encodeChar (set : EncodeSet) (c : Char) : List Char :=
  if 0x20 ≤ c.toNat && c.toNat < 0x7f && !set c then [c] else (utf8Bytes c).flatMap encodeByte

def encode (set : EncodeSet) (cs : List Char) : List Char := cs.flatMap (encodeChar set)

/-- The bytes of a text; a percent sign without two hexadecimal digits stands for itself. -/
def decode : List Char → List UInt8
  | '%' :: a :: b :: rest =>
    match Text.hexValue? a, Text.hexValue? b with
    | some high, some low => UInt8.ofNat (high * 16 + low) :: decode rest
    | _, _ => utf8Bytes '%' ++ decode (a :: b :: rest)
  | c :: rest => utf8Bytes c ++ decode rest
  | [] => []

end SqlGateway.Url
