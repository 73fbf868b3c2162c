import SqlGateway.Json.Numeral

/-! The tokens of JSON text, found byte by byte. A number past the range of the doubles and a
string that is not Unicode text are still tokens: they have a shape but no value. -/
namespace SqlGateway.Json

inductive Token where
  | beginArray
  | endArray
  | beginObject
  | endObject
  | comma
  | colon
  | null
  | bool (b : Bool)
  | number (value : Option Number)
  | string (value : Option String)

structure StringScan where
  bytes : ByteArray
  sound : Bool
  /-- A high surrogate whose partner must come next. -/
  high : Option Nat

namespace StringScan

def start : StringScan := ⟨ByteArray.empty, true, none⟩

/-- A surrogate still waiting for its partner will not get it. -/
def settle (s : StringScan) : StringScan :=
  { s with sound := s.sound && s.high.isNone, high := none }

def pushByte (s : StringScan) (b : UInt8) : StringScan :=
  let s := s.settle
  { s with bytes := s.bytes.push b }

def pushChar (s : StringScan) (code : Nat) : StringScan :=
  { s with bytes := s.bytes ++ (String.singleton (Char.ofNat code)).toUTF8 }

def isHigh (code : Nat) : Bool := 0xD800 ≤ code && code < 0xDC00

def isLow (code : Nat) : Bool := 0xDC00 ≤ code && code < 0xE000

/-- A 16-bit unit from an escape: half of a pair, or a character. -/
def pushUnit (s : StringScan) (code : Nat) : StringScan :=
  match s.high with
  | some high =>
    if isLow code then
      { s with high := none }.pushChar (0x10000 + (high - 0xD800) * 0x400 + (code - 0xDC00))
    else s.settle
  | none =>
    if isHigh code then { s with high := some code }
    else if isLow code then { s with sound := false }
    else s.pushChar code

def close (s : StringScan) : Option String :=
  if s.settle.sound then String.fromUTF8? s.bytes else none

end StringScan

/-- Where a scan stands between two bytes. -/
inductive Mode where
  | between
  /-- In a number or a literal name, read so far from the end. -/
  | word (letters : List Char)
  | string (s : StringScan)
  | escape (s : StringScan)
  /-- In a `\u` escape with this many hexadecimal digits to come. -/
  | unicode (s : StringScan) (missing : Nat) (code : Nat)

structure Scan where
  tokens : List Token
  mode : Mode

namespace Scan

def start : Scan := ⟨[], .between⟩

def isWordByte (c : Char) : Bool := c.isAlphanum || c == '+' || c == '-' || c == '.'

def wordToken? (letters : List Char) : Option Token :=
  match String.ofList letters with
  | "null" => some .null
  | "true" => some (.bool true)
  | "false" => some (.bool false)
  | _ => (Numeral.ofChars? letters).map (.number ·.value?)

def escaped? (c : Char) : Option UInt8 :=
  match c with
  | '"' | '\\' | '/' => some c.toUInt8
  | 'b' => some 0x08
  | 'f' => some 0x0c
  | 'n' => some 0x0a
  | 'r' => some 0x0d
  | 't' => some 0x09
  | _ => none

def between (tokens : List Token) (c : Char) : Option Scan :=
  match c with
  | ' ' | '\t' | '\n' | '\r' => some ⟨tokens, .between⟩
  | '[' => some ⟨.beginArray :: tokens, .between⟩
  | ']' => some ⟨.endArray :: tokens, .between⟩
  | '\x7b' => some ⟨.beginObject :: tokens, .between⟩
  | '\x7d' => some ⟨.endObject :: tokens, .between⟩
  | ',' => some ⟨.comma :: tokens, .between⟩
  | ':' => some ⟨.colon :: tokens, .between⟩
  | '"' => some ⟨tokens, .string .start⟩
  | c => if isWordByte c then some ⟨tokens, .word [c]⟩ else none

/-- Bytes above the ASCII range occur in strings only, where their encoding is checked at the end
of the string. -/
def step (scan : Scan) (b : UInt8) : Option Scan :=
  let c := Char.ofNat b.toNat
  match scan.mode with
  | .between => between scan.tokens c
  | .word letters =>
    if isWordByte c then some { scan with mode := .word (c :: letters) }
    else (wordToken? letters.reverse).bind fun token => between (token :: scan.tokens) c
  | .string s =>
    if c == '"' then some ⟨.string s.close :: scan.tokens, .between⟩
    else if c == '\\' then some { scan with mode := .escape s }
    else if b < 0x20 then none
    else some { scan with mode := .string (s.pushByte b) }
  | .escape s =>
    if c == 'u' then some { scan with mode := .unicode s 4 0 }
    else (escaped? c).map fun e => { scan with mode := .string (s.pushByte e) }
  | .unicode s missing code =>
    (Text.hexValue? c).map fun digit =>
      let code := code * 16 + digit
      if missing ≤ 1 then { scan with mode := .string (s.pushUnit code) }
      else { scan with mode := .unicode s (missing - 1) code }

def finish (scan : Scan) : Option (List Token) :=
  match scan.mode with
  | .between => some scan.tokens.reverse
  | .word letters => (wordToken? letters.reverse).map fun token => (token :: scan.tokens).reverse
  | _ => none

end Scan

def tokens? (bytes : List UInt8) : Option (List Token) :=
  (bytes.foldlM Scan.step Scan.start).bind Scan.finish

end SqlGateway.Json
