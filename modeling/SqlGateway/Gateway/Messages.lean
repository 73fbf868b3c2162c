import SqlGateway.Failure
import SqlGateway.Json.Decoder
import SqlGateway.Json.Printer

/-! What is sent to a gateway and what comes back. -/
namespace SqlGateway

structure QueryRequest where
  sql : String
  params : List Json

namespace QueryRequest

def encode (r : QueryRequest) : Json := .obj [("sql", .str r.sql), ("params", .arr r.params)]

open Json (Decoder)

def decode : Decoder QueryRequest :=
  Decoder.struct ["sql", "params"] fun room slots =>
    match slots with
    | [sql, params] => do
      return ⟨← sql.required Decoder.string room,
        ← params.required (Decoder.list Decoder.value) room⟩
    | _ => none

end QueryRequest

structure QueryResponse where
  rows : List Row
  rowCount : Option UInt64
  command : Option String

namespace QueryResponse

def empty : QueryResponse := ⟨[], none, none⟩

def ofRows (rows : List Row) : QueryResponse := ⟨rows, some (UInt64.ofNat rows.length), none⟩

def encode (r : QueryResponse) : Json :=
  .obj [("rows", .arr (r.rows.map Json.obj)), ("rowCount", .ofOption .ofUInt64 r.rowCount),
    ("command", .ofOption .str r.command)]

open Json (Decoder)

/-- Every part may be left out. -/
def decode : Decoder QueryResponse :=
  Decoder.struct ["rows", "rowCount", "command"] fun room slots =>
    match slots with
    | [rows, rowCount, command] => do
      return ⟨← rows.defaulted (Decoder.list Decoder.row) [] room,
        ← rowCount.defaulted (Decoder.option Decoder.uint64) none room,
        ← command.defaulted (Decoder.option Decoder.string) none room⟩
    | _ => none

end QueryResponse

/-- What a gateway says about a failure. Anything else in the body is skipped. -/
structure FailureReport where
  error : Option String
  details : Option String
  deriving DecidableEq, Repr

namespace FailureReport

def silent : FailureReport := ⟨none, none⟩

open Json (Decoder)

def decode : Decoder FailureReport :=
  Decoder.struct ["error", "details"] fun room slots =>
    match slots with
    | [error, details] => do
      return ⟨← error.defaulted (Decoder.option Decoder.string) none room,
        ← details.defaulted (Decoder.option Decoder.string) none room⟩
    | _ => none

/-- The more detailed of the messages. -/
def message? (r : FailureReport) : Option String := r.details.or r.error

end FailureReport

/-- What a statement brought back. -/
structure QueryOutcome where
  rows : List Row
  rowCount : UInt64
  command : Option String

/-- Without a count the rows are counted. -/
def QueryOutcome.ofResponse (r : QueryResponse) : QueryOutcome :=
  ⟨r.rows, r.rowCount.getD (UInt64.ofNat r.rows.length), r.command⟩

end SqlGateway
