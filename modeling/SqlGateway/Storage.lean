import SqlGateway.Envelope

/-! Buckets of files. No operation on a bucket is provided: each is answered at once with no data
and no error. -/
namespace SqlGateway

structure Bucket where
  name : String
  deriving DecidableEq, Repr

namespace Bucket

inductive Operation where
  | upload (path : String) (body : ByteArray)
  | download (path : String)
  | remove (paths : List String)
  | signUrl (path : String) (seconds : UInt64)

def perform (_ : Bucket) (_ : Operation) : Envelope Json := .empty

end Bucket

end SqlGateway
