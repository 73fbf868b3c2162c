import SqlGateway.Url.Percent

/-! The name and password in front of the host of an address. -/
namespace SqlGateway.Url

structure Credentials where
  name : List Char
  /-- An empty password is none. -/
  password : List Char
  deriving DecidableEq, Repr

namespace Credentials

def none : Credentials := ⟨[], []⟩

/-- Everything up to the first colon is the name. -/
def read (userinfo : List Char) : Credentials :=
  { name := encode userinfoSet (userinfo.takeWhile (· != ':'))
    password := encode userinfoSet (userinfo.dropWhile (· != ':')).tail }

def isEmpty (c : Credentials) : Bool := c.name.isEmpty && c.password.isEmpty

def text (c : Credentials) : List Char :=
  if c.isEmpty then []
  else c.name ++ (if c.password.isEmpty then [] else ':' :: c.password) ++ ['@']

def decoded? (cs : List Char) : Option String := String.fromUTF8? ⟨(decode cs).toArray⟩

/-- What is shown to the host: name and password with a colon between them. A password that is no
text is left out, and nothing is shown when neither part is left. -/
def shown? (c : Credentials) : Option String := do
  let name ← decoded? c.name
  let password := if c.password.isEmpty then Option.none else decoded? c.password
  if name.isEmpty && password.isNone then Option.none
  else some (name ++ ":" ++ password.getD "")

end Credentials

end SqlGateway.Url
