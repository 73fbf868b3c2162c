import SqlGateway.Url.Domain.Label

/-! Domain names in ASCII form. A name is mapped character by character, brought into normal form
and cut at its points; then each label, and all of them together, have to be in order. -/
namespace SqlGateway.Url.Domain

def isForbidden (c : Char) : Bool :=
  c.toNat ≤ 0x20 || c == '\x7f' || "%#/:<>?@[\\]^|".toList.contains c

def readLabels? (name : List Char) : Option (List (List Char)) := do
  let text := Unicode.normalize (← mapText? name)
  if text.any isForbidden then none
  (Text.splitAt '.' text).mapM readLabel?

def directionsFit (labels : List (List Char)) : Bool :=
  !labels.any hasRightToLeft || labels.all obeysDirection

/-- The ASCII form of a name, if it is one. Labels may be empty. -/
def toAscii? (name : List Char) : Option (List Char) := do
  let labels ← readLabels? name
  if directionsFit labels then some ((labels.map asciiLabel).intersperse ['.']).flatten else none

end SqlGateway.Url.Domain
