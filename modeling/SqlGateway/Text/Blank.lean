/-! White space in the Unicode sense: the 25 code points of the property `White_Space`.
Names, projections, settings and header values are trimmed and split by this rule. -/
namespace SqlGateway.Text

def isBlank (c : Char) : Bool :=
  ('\t' ≤ c && c ≤ '\r') || c == ' ' || c == '\u0085' || c == '\u00a0' || c == '\u1680' ||
  ('\u2000' ≤ c && c ≤ '\u200a') || c == '\u2028' || c == '\u2029' || c == '\u202f' ||
  c == '\u205f' || c == '\u3000'

def trimLeft (cs : List Char) : List Char := cs.dropWhile isBlank

def trimChars (cs : List Char) : List Char :=
  (trimLeft (trimLeft cs).reverse).reverse

def trim (s : String) : String := String.ofList (trimChars s.toList)

end SqlGateway.Text
