import SqlGateway.Text.Split

/-! Names that may appear in a statement. Names are written into statements unquoted, so what is
accepted here is all that stands between a caller's text and the statement. -/
namespace SqlGateway.Identifier

def isInitial (c : Char) : Bool := c.isAlpha || c == '_'

def isFollowing (c : Char) : Bool := c.isAlphanum || c == '_'

/-- An ASCII letter or underscore, then ASCII letters, digits and underscores. -/
def isSimple : List Char → Bool
  | [] => false
  | c :: cs => isInitial c && cs.all isFollowing

/-- A simple name, or a qualifier and a simple name with a point between them. -/
def isPath (cs : List Char) : Bool :=
  match Text.splitAt '.' cs with
  | [name] => isSimple name
  | [qualifier, name] => isSimple qualifier && isSimple name
  | _ => false

def accepts (name : String) : Bool := isPath name.toList

end SqlGateway.Identifier
