import SqlGateway.Identifier

/-! What a query selects: everything, or a list of columns with optional aliases. -/
namespace SqlGateway.Projection

def everything : String := "*"

/-- A projection as it is kept: without blanks around it, and everything if nothing is left. -/
def normalize (projection : String) : String :=
  let trimmed := Text.trim projection
  if trimmed.isEmpty then everything else trimmed

def isColumn (path : List Char) : Bool :=
  match path.reverse with
  | '*' :: '.' :: qualifier => Identifier.isSimple qualifier.reverse
  | _ => Identifier.isPath path

def isAs (word : List Char) : Bool := word.map Char.toLower == ['a', 's']

def isEntry : List (List Char) → Bool
  | [path] => isColumn path
  | [path, keyword, name] => isAs keyword && isColumn path && Identifier.isSimple name
  | _ => false

def acceptsChars (cs : List Char) : Bool :=
  cs == ['*'] || (Text.splitAt ',' cs).all fun entry => isEntry (Text.words entry)

def accepts (projection : String) : Bool := acceptsChars projection.toList

end SqlGateway.Projection
