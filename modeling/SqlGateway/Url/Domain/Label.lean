import SqlGateway.Unicode.Composition
import SqlGateway.Unicode.Direction
import SqlGateway.Unicode.Joining
import SqlGateway.Unicode.Mark
import SqlGateway.Url.Domain.Mapping
import SqlGateway.Url.Punycode

/-! The labels of a domain name, between its points. A label outside ASCII has a second form in
ASCII, which starts with `xn--`; what holds of labels is said of the first form. -/
namespace SqlGateway.Url.Domain

open Unicode (Direction Joining)

/-! ### Joiners -/

def nonJoiner : Char := '\u200c'

def joiner : Char := '\u200d'

def reaches (joins : Joining → Bool) (cs : List Char) : Bool :=
  match (cs.map Joining.ofChar).dropWhile (· == .transparent) with
  | [] => false
  | joining :: _ => joins joining

/-- Both joiners may follow a sign that suppresses a vowel; the non-joiner may also stand between
two letters that would join. The text before is given from its end. -/
def allowsJoiner (c : Char) (before after : List Char) : Bool :=
  match before with
  | [] => false
  | previous :: _ =>
    Unicode.combiningClass previous == Unicode.viramaClass ||
      (c == nonJoiner && reaches Joining.joinsFollowing before &&
        reaches Joining.joinsPreceding after)

def joinersFit (before : List Char) : List Char → Bool
  | [] => true
  | c :: after =>
    ((c != nonJoiner && c != joiner) || allowsJoiner c before after) &&
      joinersFit (c :: before) after

/-! ### Directions -/

/-- What a label in a name with letters written from right to left has to be: of one direction,
with a letter in front, a letter or digit at the end, and not with both kinds of digits in a label
from right to left. Marks at the end do not count. -/
def obeysDirection (label : List Char) : Bool :=
  match label.map Direction.ofChar with
  | [] => true
  | first :: rest =>
    let body := (rest.reverse.dropWhile (· == .mark)).reverse
    match first with
    | .left =>
      !body.contains .right && !body.contains .arabicDigit && body.getLast? != some .neutral
    | .right =>
      !body.contains .left && !(body.contains .europeanDigit && body.contains .arabicDigit) &&
        body.getLast? != some .neutral
    | _ => false

def hasRightToLeft (label : List Char) : Bool :=
  (label.map Direction.ofChar).any fun d => d == .right || d == .arabicDigit

/-! ### Forms -/

def maxLabelLength : Nat := 1000

/-- The most characters of a label in ASCII form, without the four in front. -/
def maxEncodedLength : Nat := 2000

def isAscii (label : List Char) : Bool := label.all Punycode.isAscii

def isProper (label : List Char) : Bool :=
  !(label.take 1).any Unicode.isMark && joinersFit [] label && label.length ≤ maxLabelLength

def isSettled (label : List Char) : Bool :=
  label.all (fun c => mapChar? c == some [c]) && Unicode.normalize label == label

def decodeLabel? (code : List Char) : Option (List Char) :=
  if !isAscii code || maxEncodedLength < code.length || code.isEmpty || code.getLast? == some '-'
  then none
  else (Punycode.decode? code).filter fun label => isSettled label && isProper label

def readLabel? : List Char → Option (List Char)
  | 'x' :: 'n' :: '-' :: '-' :: code => decodeLabel? code
  | label => if isAscii label || isProper label then some label else none

def asciiLabel (label : List Char) : List Char :=
  if isAscii label then label else "xn--".toList ++ Punycode.encode label

end SqlGateway.Url.Domain
