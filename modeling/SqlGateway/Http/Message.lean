import SqlGateway.Gateway.Messages
import SqlGateway.Http.Status
import SqlGateway.Settings
import SqlGateway.Text.Base64

/-! Requests to a gateway over HTTP and what its responses mean. -/
namespace SqlGateway.Http

structure Request where
  method : String
  target : String
  /-- Credentials first, then the token. -/
  authorization : List String
  contentType : Option String
  userAgent : String
  body : String
  deriving DecidableEq, Repr

/-- Header values hold tabs and visible characters; what is not ASCII passes through. -/
def isHeaderChar (c : Char) : Bool := c == '\t' || (0x20 ≤ c.toNat && c != '\x7f')

def isHeaderValue (s : String) : Bool := s.toList.all isHeaderChar

def headerValue (s : String) : String := Text.trim s

def bearerHeader (token : String) : String := "Bearer " ++ token

def basicHeader (shown : String) : String :=
  "Basic " ++ String.ofList (Text.base64 shown.toUTF8.toList)

structure Sender where
  target : String
  addressable : Bool
  credentials : Option String
  bearer : Option String
  userAgent : String
  deriving DecidableEq, Repr

namespace Sender

/-- Whether address and token can be sent; a client finds out only when it sends. -/
def canSend (s : Sender) : Bool :=
  s.addressable && s.bearer.all fun token => isHeaderValue (bearerHeader token)

def authorization (s : Sender) : List String :=
  (s.credentials.map basicHeader).toList ++
    (s.bearer.map fun token => headerValue (bearerHeader token)).toList

def request (s : Sender) (method : String) (contentType : Option String) (body : String) :
    Request :=
  { method, target := s.target
    authorization := s.authorization, contentType, userAgent := headerValue s.userAgent, body }

def queryRequest (s : Sender) (r : QueryRequest) : Request :=
  s.request "POST" (some "application/json") r.encode.text

def healthRequest (s : Sender) : Request := s.request "GET" none ""

end Sender

structure Response where
  status : UInt16
  body : List UInt8
  /-- The connection ended before the announced length. -/
  cutShort : Bool
  deriving DecidableEq, Repr

namespace Response

open Json (Document Decoder)

def wholeBody (r : Response) : Except Failure (List UInt8) :=
  if isBodiless r.status then .ok []
  else if r.cutShort then .error (.transport "error decoding response body")
  else .ok r.body

/-- What the body of a failure says; a body of any other form says nothing. -/
def report (body : List UInt8) : FailureReport :=
  ((Document.ofBytes? body).bind (Decoder.run FailureReport.decode)).getD .silent

def failure (status : UInt16) (body : List UInt8) : Failure :=
  let message := ((report body).message?.or (reasonPhrase? status)).getD "request failed"
  .backend status (Failure.truncate message)

def queryOutcome (r : Response) : Except Failure QueryResponse := do
  let body ← r.wholeBody
  if isSuccess r.status then
    match (Document.ofBytes? body).bind (Decoder.run QueryResponse.decode) with
    | some response => return response
    | none => throw (.decode .queryResponse)
  else throw (failure r.status body)

/-- The body of a success is not looked at. -/
def healthOutcome (r : Response) : Except Failure Unit := do
  if isSuccess r.status then return ()
  else
    let body ← r.wholeBody
    throw (failure r.status body)

end Response

end SqlGateway.Http
