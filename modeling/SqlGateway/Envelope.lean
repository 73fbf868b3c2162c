import SqlGateway.Failure
import SqlGateway.Json.Decoder

/-! What callers get back: data, an error, or neither. No producer here fills both; a stored
envelope is read back as it is. -/
namespace SqlGateway

structure EnvelopeError where
  code : String
  message : String
  deriving DecidableEq, Repr

namespace EnvelopeError

def ofFailure (f : Failure) : EnvelopeError := ⟨f.code.name, f.message⟩

/-- The message with the code behind it. -/
def text (e : EnvelopeError) : String := e.message ++ " (" ++ e.code ++ ")"

def encode (e : EnvelopeError) : Json := .obj [("code", .str e.code), ("message", .str e.message)]

open Json (Decoder)

def decode : Decoder EnvelopeError :=
  Decoder.struct ["code", "message"] fun room slots =>
    match slots with
    | [code, message] => do
      return ⟨← code.required Decoder.string room, ← message.required Decoder.string room⟩
    | _ => none

end EnvelopeError

structure Envelope (α : Type) where
  data : Option α
  error : Option EnvelopeError

namespace Envelope

def ok (a : α) : Envelope α := ⟨some a, none⟩

def empty : Envelope α := ⟨none, none⟩

def err (e : EnvelopeError) : Envelope α := ⟨none, some e⟩

def ofResult : Except Failure (Option α) → Envelope α
  | .ok data => ⟨data, none⟩
  | .error f => err (.ofFailure f)

def isOk (e : Envelope α) : Bool := e.error.isNone

def map (f : α → β) (e : Envelope α) : Envelope β := ⟨e.data.map f, e.error⟩

/-- The error if there is one, else the data. -/
def result (e : Envelope α) : Except EnvelopeError (Option α) :=
  match e.error with
  | some error => .error error
  | none => .ok e.data

def encode (data : α → Json) (e : Envelope α) : Json :=
  .obj [("data", .ofOption data e.data), ("error", .ofOption EnvelopeError.encode e.error)]

open Json (Decoder)

def decode (data : Decoder α) : Decoder (Envelope α) :=
  Decoder.struct ["data", "error"] fun room slots =>
    match slots with
    | [first, second] => do
      return ⟨← first.optional data room, ← second.optional EnvelopeError.decode room⟩
    | _ => none

end Envelope

/-- The answer of a call that has no data. -/
structure ErrorEnvelope where
  error : Option EnvelopeError
  deriving DecidableEq, Repr

namespace ErrorEnvelope

def empty : ErrorEnvelope := ⟨none⟩

def encode (e : ErrorEnvelope) : Json :=
  .obj [("error", .ofOption EnvelopeError.encode e.error)]

open Json (Decoder)

def decode : Decoder ErrorEnvelope :=
  Decoder.struct ["error"] fun room slots =>
    match slots with
    | [error] => do return ⟨← error.optional EnvelopeError.decode room⟩
    | _ => none

end ErrorEnvelope

end SqlGateway
