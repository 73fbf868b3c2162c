import SqlGateway.Url.Domain
import SqlGateway.Url.Error
import SqlGateway.Url.Percent

/-! Hosts: domain names in their ASCII form, and numeric addresses in every spelling that counts
as one. -/
namespace SqlGateway.Url

inductive Host where
  | domain (name : List Char)
  | ipv4 (address : Nat)
  | ipv6 (pieces : List Nat)
  deriving DecidableEq, Repr

namespace Host

/-! ### Numeric addresses of 32 bits -/

/-- A part of a numeric address: hexadecimal after `0x`, octal after another zero, else decimal. -/
def readPart? : List Char → Option Nat
  | [] => none
  | '0' :: 'x' :: cs | '0' :: 'X' :: cs => Text.readNumber? 16 cs
  | '0' :: c :: cs => Text.readNumber? 8 (c :: cs)
  | cs => Text.readNumber? 10 cs

/-- The parts between points, without an empty one at the end. -/
def addressParts (cs : List Char) : List (List Char) :=
  let parts := Text.splitAt '.' cs
  if 1 < parts.length && parts.getLast? = some [] then parts.dropLast else parts

/-- A name whose last part is a number has to be an address. -/
def endsInNumber (cs : List Char) : Bool :=
  match (addressParts cs).getLast? with
  | none | some [] => false
  | some last => last.all Char.isDigit || (readPart? last).isSome

/-- The last part fills all the bytes that the parts before it leave. -/
def readIpv4? (cs : List Char) : Option Nat := do
  let parts := addressParts cs
  if 4 < parts.length then none
  let numbers ← parts.mapM readPart?
  let last ← numbers.getLast?
  let leading := numbers.dropLast
  let room := Nat.pow 256 (4 - leading.length)
  if leading.any (255 < ·) || room ≤ last then none
  else some (leading.foldl (fun address n => address * 256 + n) 0 * room + last)

def ipv4Text (address : Nat) : List Char :=
  let byte (i : Nat) := Nat.toDigits 10 (address >>> (8 * i) % 256)
  byte 3 ++ '.' :: byte 2 ++ '.' :: byte 1 ++ '.' :: byte 0

/-! ### Numeric addresses of 128 bits -/

def readPiece? (cs : List Char) : Option Nat :=
  if cs.isEmpty || 4 < cs.length then none else Text.readNumber? 16 cs

def readByte? (cs : List Char) : Option Nat :=
  match cs with
  | [] => none
  | '0' :: _ :: _ => none
  | cs => (Text.readNumber? 10 cs).filter (· ≤ 255)

def readQuad? (cs : List Char) : Option (List Nat) :=
  match (Text.splitAt '.' cs).mapM readByte? with
  | some [a, b, c, d] => some [a * 256 + b, c * 256 + d]
  | _ => none

/-- The pieces between colons; only the last of them may be four bytes in decimal. -/
def readPieces? (last : Bool) (cs : List Char) : Option (List Nat) :=
  if cs.isEmpty then some []
  else
    let parts := Text.splitAt ':' cs
    match parts.getLast? with
    | none => none
    | some final => do
      let front ← parts.dropLast.mapM readPiece?
      let back ←
        if last && final.contains '.' then readQuad? final else (readPiece? final).map ([·])
      return front ++ back

def splitAtGap? : List Char → Option (List Char × List Char)
  | ':' :: ':' :: rest => some ([], rest)
  | c :: rest => (splitAtGap? rest).map fun (before, after) => (c :: before, after)
  | [] => none

/-- Eight pieces, or fewer with a gap that stands for at least one zero piece. -/
def readIpv6? (cs : List Char) : Option (List Nat) :=
  match splitAtGap? cs with
  | none => (readPieces? true cs).filter (·.length = 8)
  | some (before, after) => do
    let front ← readPieces? false before
    let back ← readPieces? true after
    if 7 < front.length + back.length then none
    else some (front ++ List.replicate (8 - front.length - back.length) 0 ++ back)

def zeroRun (pieces : List Nat) : Nat := (pieces.takeWhile (· = 0)).length

/-- Start and length of the first longest run of at least two zero pieces. -/
def longestGap (pieces : List Nat) : Nat × Nat :=
  (List.range pieces.length).foldl (fun best start =>
    let run := zeroRun (pieces.drop start)
    if best.2 < run && 2 ≤ run then (start, run) else best) (0, 0)

def joinPieces (pieces : List Nat) : List Char :=
  ((pieces.map (Nat.toDigits 16)).intersperse [':']).flatten

def ipv6Text (pieces : List Nat) : List Char :=
  let (start, length) := longestGap pieces
  if length = 0 then joinPieces pieces
  else joinPieces (pieces.take start) ++ "::".toList ++ joinPieces (pieces.drop (start + length))

/-! ### Any host -/

/-- A domain name is percent-encoded text, and numbers with points between them are no name. -/
def readName (cs : List Char) : Except Error Host :=
  match (String.fromUTF8? ⟨(decode cs).toArray⟩).bind fun text => Domain.toAscii? text.toList with
  | none => .error .invalidDomain
  | some [] => .error .emptyHost
  | some name =>
    if endsInNumber name then
      match readIpv4? name with
      | some address => .ok (.ipv4 address)
      | none => .error .invalidIpv4
    else .ok (.domain name)

def readBracketed (cs : List Char) : Except Error Host :=
  match cs.reverse with
  | ']' :: inner =>
    match readIpv6? inner.reverse with
    | some pieces => .ok (.ipv6 pieces)
    | none => .error .invalidIpv6
  | _ => .error .invalidIpv6

def read : List Char → Except Error Host
  | '[' :: cs => readBracketed cs
  | cs => readName cs

def checkForeign : List Char → Except Error Unit
  | '[' :: cs => (readBracketed cs).map fun _ => ()
  | cs =>
    if cs.any (fun c => c == '\x00' || c == ' ' || "#/:<>?@[\\]^|".toList.contains c) then
      .error .invalidHostCharacter
    else .ok ()

def text : Host → List Char
  | domain name => name
  | ipv4 address => ipv4Text address
  | ipv6 pieces => '[' :: (ipv6Text pieces ++ [']'])

end Host

end SqlGateway.Url
