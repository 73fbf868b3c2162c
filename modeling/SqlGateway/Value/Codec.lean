import SqlGateway.Value
import SqlGateway.Json.Decoder

/-! The stored form of a value: its kind as the only key of an object, or alone for null. -/
namespace SqlGateway.Value

mutual

def encode : Value → Json
  | null => .str "Null"
  | boolean b => .obj [("Boolean", .bool b)]
  | integer n => .obj [("Integer", .ofInt64 n)]
  | float x => .obj [("Float", .ofFloat x)]
  | text s => .obj [("Text", .str s)]
  | array items => .obj [("Array", .arr (encodeItems items))]
  | json j => .obj [("Json", j)]

def encodeItems : List Value → List Json
  | [] => []
  | v :: rest => encode v :: encodeItems rest

end

open Json (Document Decoder)

/-- Reads the content of a value of the named kind, arrays apart. -/
def decodeScalar (room : Nat) (kind : String) (content : Document) : Option Value :=
  match kind with
  | "Boolean" => (Decoder.boolean room content).map boolean
  | "Integer" => (Decoder.int64 room content).map integer
  | "Float" => (Decoder.float room content).map float
  | "Text" => (Decoder.string room content).map text
  | "Json" => (Decoder.value room content).map json
  | _ => none

mutual

def decode (room : Nat) : Document → Option Value
  | .string (some "Null") => some null
  | .object [(some kind, content)] =>
    match room with
    | 0 => none
    | room + 1 =>
      if kind = "Array" then
        match room, content with
        | room + 1, .array items => (decodeItems room items).map array
        | _, _ => none
      else if kind = "Null" then
        match content with
        | .null => some null
        | _ => none
      else decodeScalar room kind content
  | _ => none

def decodeItems (room : Nat) : List Document → Option (List Value)
  | [] => some []
  | d :: rest =>
    match decode room d, decodeItems room rest with
    | some v, some vs => some (v :: vs)
    | _, _ => none

end

end SqlGateway.Value
