import SqlGateway.Url.Credentials
import SqlGateway.Url.Host

/-! The web address of a gateway. Addresses of other schemes are read only as far as it takes to
tell a wrong scheme from a text that is no address at all. -/
namespace SqlGateway.Url

inductive Scheme where
  | http
  | https
  deriving DecidableEq, Repr

def Scheme.name : Scheme → String
  | http => "http"
  | https => "https"

def Scheme.defaultPort : Scheme → Nat
  | http => 80
  | https => 443

structure Endpoint where
  scheme : Scheme
  credentials : Credentials
  host : Host
  port : Option Nat
  /-- Starts with a slash. -/
  path : List Char
  query : Option (List Char)
  fragment : Option (List Char)

namespace Endpoint

inductive Refusal where
  | unreadable (reason : Error)
  | scheme (name : String)
  deriving DecidableEq, Repr

/-- A text without the controls and spaces around it, and without tabs and line breaks in it. -/
def clean (cs : List Char) : List Char :=
  let outside (c : Char) : Bool := c.toNat ≤ 0x20
  let inner := ((cs.dropWhile outside).reverse.dropWhile outside).reverse
  inner.filter fun c => c != '\t' && c != '\n' && c != '\r'

/-- A letter, then letters, digits and three signs, up to a colon; in small letters. -/
def readScheme? (cs : List Char) : Option (List Char × List Char) :=
  let isSchemeChar (c : Char) : Bool := c.isAlphanum || c == '+' || c == '-' || c == '.'
  let name := cs.takeWhile isSchemeChar
  match name, cs.dropWhile isSchemeChar with
  | c :: _, ':' :: rest => if c.isAlpha then some (name.map Char.toLower, rest) else none
  | _, _ => none

def isSlash (c : Char) : Bool := c == '/' || c == '\\'

/-- What ends an authority; the backslash counts as a slash in the well-known schemes only. -/
def endsAuthority (wellKnown : Bool) (c : Char) : Bool :=
  c == '/' || c == '?' || c == '#' || (wellKnown && c == '\\')

def splitUserinfo (authority : List Char) : Option (List Char) × List Char :=
  let host := (authority.reverse.takeWhile (· != '@')).reverse
  if host.length = authority.length then (none, authority)
  else (some (authority.take (authority.length - host.length - 1)), host)

def splitPort (bracketed : Bool) : List Char → List Char × Option (List Char)
  | [] => ([], none)
  | c :: cs =>
    if c == ':' && !bracketed then ([], some cs)
    else
      let inner := if c == '[' then true else if c == ']' then false else bracketed
      let (host, port) := splitPort inner cs
      (c :: host, port)

/-- A port in decimal; no digits are no port. -/
def readPort : List Char → Except Error (Option Nat)
  | [] => .ok none
  | cs =>
    if cs.all Char.isDigit then
      let n := Text.natOfDigits cs
      if n < UInt16.size then .ok (some n) else .error .invalidPort
    else .error .invalidPort

/-- One or two points, each plain or percent-encoded. -/
def pointCount? : List Char → Option Nat
  | [] => some 0
  | '.' :: cs => (pointCount? cs).map (· + 1)
  | '%' :: '2' :: 'e' :: cs | '%' :: '2' :: 'E' :: cs => (pointCount? cs).map (· + 1)
  | _ => none

def isDriveLetter : List Char → Bool
  | [c, mark] => c.isAlpha && (mark == ':' || mark == '|')
  | _ => false

/-- The path above a path, both given from their ends. A drive letter is never left. -/
def parent (path : List (List Char)) : List (List Char) :=
  match path with
  | [] => []
  | segment :: above => if isDriveLetter segment then path else above

/-- Appends a segment to a path, given from its end. A single point adds nothing, a double point
leads to the path above; at the end of the path both leave an empty segment. -/
def pushSegment (path : List (List Char)) (segment : List Char) (isLast : Bool) :
    List (List Char) :=
  match pointCount? segment with
  | some 1 => if isLast then [] :: path else path
  | some 2 => if isLast then [] :: parent path else parent path
  | _ => segment :: path

def pushSegments (path : List (List Char)) : List (List Char) → List (List Char)
  | [] => path
  | [segment] => pushSegment path segment true
  | segment :: rest => pushSegments (pushSegment path segment false) rest

def pathText (cs : List Char) : List Char :=
  let body := match cs with
    | c :: rest => if isSlash c then rest else cs
    | [] => []
  let segments := (Text.splitWhere isSlash body).map (encode pathSet)
  (pushSegments [] segments).reverse.flatMap ('/' :: ·)

def after? (mark : Char) : List Char → Option (List Char)
  | c :: cs => if c == mark then some cs else none
  | [] => none

def readAuthority (authority : List Char) (defaultPort : Option Nat) :
    Except Error (Credentials × Host × Option Nat) := do
  let (userinfo, rest) := splitUserinfo authority
  let (hostText, portText) := splitPort false rest
  if hostText.isEmpty then throw .emptyHost
  let host ← Host.read hostText
  let port ← readPort (portText.getD [])
  return (.read (userinfo.getD []), host, if port = defaultPort then none else port)

/-- Reads what follows `http:` or `https:`. Any number of slashes may stand before the host. -/
def readWeb (scheme : Scheme) (cs : List Char) : Except Error Endpoint := do
  let body := cs.dropWhile isSlash
  let rest := body.dropWhile (!endsAuthority true ·)
  let (credentials, host, port) ←
    readAuthority (body.takeWhile (!endsAuthority true ·)) (some scheme.defaultPort)
  let isPathChar (c : Char) : Bool := c != '?' && c != '#'
  let tail := rest.dropWhile isPathChar
  return {
    scheme, credentials, host, port
    path := pathText (rest.takeWhile isPathChar)
    query := (after? '?' tail).map fun q => encode querySet (q.takeWhile (· != '#'))
    fragment := (after? '#' (tail.dropWhile (· != '#'))).map (encode fragmentSet) }

def checkForeignAuthority (authority : List Char) (isLast : Bool) : Except Error Unit := do
  let (userinfo, rest) := splitUserinfo authority
  let (hostText, portText) := splitPort false rest
  if userinfo = some [] && rest.isEmpty && !isLast then throw .emptyHost
  Host.checkForeign hostText
  if hostText.isEmpty && portText.isSome then throw .emptyHost
  let _ ← readPort ((portText.getD []).takeWhile (· != '\\'))
  if hostText.isEmpty && !(Credentials.read (userinfo.getD [])).isEmpty then throw .emptyHost

/-- A local file may name a host between two slashes and a third. -/
def checkFile : List Char → Except Error Unit
  | a :: b :: cs =>
    let host := cs.takeWhile (!endsAuthority true ·)
    if isSlash a && isSlash b && !host.isEmpty && !isDriveLetter host then
      (Host.read host).map fun _ => ()
    else .ok ()
  | _ => .ok ()

def checkForeign (scheme : String) (cs : List Char) : Except Error Unit :=
  if scheme = "file" then checkFile cs
  else if scheme = "ws" || scheme = "wss" || scheme = "ftp" then
    (readAuthority ((cs.dropWhile isSlash).takeWhile (!endsAuthority true ·)) none).map fun _ => ()
  else match cs with
    | '/' :: '/' :: rest =>
      let authority := rest.takeWhile (!endsAuthority false ·)
      checkForeignAuthority authority (authority.length = rest.length)
    | _ => .ok ()

def readCharacters (cs : List Char) : Except Refusal Endpoint :=
  match readScheme? (clean cs) with
  | none => .error (.unreadable .noScheme)
  | some (name, rest) =>
    if name = "http".toList then (readWeb .http rest).mapError .unreadable
    else if name = "https".toList then (readWeb .https rest).mapError .unreadable
    else match checkForeign (String.ofList name) rest with
      | .error reason => .error (.unreadable reason)
      | .ok () => .error (.scheme (String.ofList name))

def read (text : String) : Except Refusal Endpoint := readCharacters text.toList

def target (e : Endpoint) : String :=
  String.ofList (e.path ++ match e.query with
    | some query => '?' :: query
    | none => [])

def text (e : Endpoint) : String :=
  e.scheme.name ++ "://" ++ String.ofList (e.credentials.text ++ e.host.text ++
    (match e.port with
      | some port => ':' :: Nat.toDigits 10 port
      | none => [])) ++ e.target ++
    (match e.fragment with
      | some fragment => "#" ++ String.ofList fragment
      | none => "")

def maxLength : Nat := 65534

/-- Whether a request can name the address, without its credentials: it is not too long, and the
host has none of four characters that domain names may hold. -/
def isAddressable (e : Endpoint) : Bool :=
  ({ e with credentials := .none }.text).utf8ByteSize ≤ maxLength &&
    !e.host.text.any fun c => c == '"' || c == '\x60' || c == '\x7b' || c == '\x7d'

end Endpoint

end SqlGateway.Url
