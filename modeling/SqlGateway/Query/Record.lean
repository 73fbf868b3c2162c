import SqlGateway.Query.Error
import SqlGateway.Value.Binding
import SqlGateway.Value.Codec

/-! The columns that a statement writes, each with its value, in the order in which the columns
first came. -/
namespace SqlGateway

structure Record where
  fields : List (String × Value)

namespace Record

def empty : Record := ⟨[]⟩

/-- A column that is there already keeps its position and takes the new value. -/
def insert (r : Record) (column : String) (v : Value) : Record := ⟨Assoc.put column v r.fields⟩

def insertAll (r : Record) (pairs : List (String × Value)) : Record :=
  ⟨Assoc.putAll pairs r.fields⟩

def ofPairs (pairs : List (String × Value)) : Record := empty.insertAll pairs

def get? (r : Record) (column : String) : Option Value := Assoc.get? column r.fields

def columns (r : Record) : List String := Assoc.names r.fields

def values (r : Record) : List Value := r.fields.map Prod.snd

def size (r : Record) : Nat := r.fields.length

def isEmpty (r : Record) : Bool := r.fields.isEmpty

/-- The record of a JSON object; no other kind of JSON is a record. -/
def ofJson : Json → Except QueryError Record
  | .obj members => .ok (ofPairs (members.map fun m => (m.1, Value.ofJson m.2)))
  | j => .error (.invalidQuery (.notARecord j.kind))

instance : BEq Record := ⟨fun r s =>
  r.columns == s.columns && r.values == s.values⟩

def encode (r : Record) : Json :=
  .obj [("fields", .arr (r.fields.map fun f => .arr [.str f.1, f.2.encode]))]

open Json (Decoder)

/-- A stored record is taken as it is, even where it names a column twice. -/
def decode : Decoder Record :=
  Decoder.struct ["fields"] fun room slots =>
    match slots with
    | [fields] =>
      (fields.required (Decoder.list (Decoder.pair Decoder.string Value.decode)) room).map mk
    | _ => none

end Record

end SqlGateway
