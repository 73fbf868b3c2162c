import SqlGateway.Assoc
import SqlGateway.Json.Document

/-! Reading values of a known shape from documents. Every container that is read, and not merely
skipped, takes one unit of `room`; a text may use `Decoder.limit` of them, one inside another. -/
namespace SqlGateway.Json

mutual

/-- A free-form value. A repeated key keeps its first position and takes the last value. -/
def ofDocument? (room : Nat) : Document → Option Json
  | .null => some null
  | .bool b => some (bool b)
  | .number n => n.map num
  | .string s => s.map str
  | .array items =>
    match room with
    | 0 => none
    | room + 1 => (ofItems? room items).map arr
  | .object members =>
    match room with
    | 0 => none
    | room + 1 => (ofMembers? room members).map fun pairs => obj (Assoc.ofPairs pairs)

def ofItems? (room : Nat) : List Document → Option (List Json)
  | [] => some []
  | d :: rest =>
    match ofDocument? room d, ofItems? room rest with
    | some j, some js => some (j :: js)
    | _, _ => none

def ofMembers? (room : Nat) : List (Option String × Document) → Option (List (String × Json))
  | [] => some []
  | (key, d) :: rest =>
    match key, ofDocument? room d, ofMembers? room rest with
    | some key, some j, some pairs => some ((key, j) :: pairs)
    | _, _, _ => none

end

/-- Reads an `α` from a document within the given room. -/
abbrev Decoder (α : Type) := Nat → Document → Option α

namespace Decoder

/-- How many containers may stand one inside another. -/
def limit : Nat := 127

def run (decode : Decoder α) (d : Document) : Option α := decode limit d

def value : Decoder Json := ofDocument?

def string : Decoder String
  | _, .string s => s
  | _, _ => none

def boolean : Decoder Bool
  | _, .bool b => some b
  | _, _ => none

def integer : Decoder Int
  | _, .number (some (.int n _)) => some n
  | _, _ => none

def int64 : Decoder Int64 := fun room d =>
  (integer room d).bind fun n => if n < 0x8000000000000000 then some (Int64.ofInt n) else none

def uint64 : Decoder UInt64 := fun room d =>
  (integer room d).bind fun n => if 0 ≤ n then some (UInt64.ofNat n.toNat) else none

def float : Decoder Float
  | _, .number (some (.int n _)) => some (Float.ofInt n)
  | _, .number (some (.real x _)) => some x
  | _, _ => none

def option (decode : Decoder α) : Decoder (Option α)
  | _, .null => some none
  | room, d => (decode room d).map some

def list (decode : Decoder α) : Decoder (List α)
  | room + 1, .array items => items.mapM (decode room)
  | _, _ => none

def pair (first : Decoder α) (second : Decoder β) : Decoder (α × β)
  | room + 1, .array [a, b] =>
    match first room a, second room b with
    | some a, some b => some (a, b)
    | _, _ => none
  | _, _ => none

def row : Decoder Row := fun room d =>
  match ofDocument? room d with
  | some (.obj members) => some members
  | _ => none

inductive Slot where
  | given (d : Document)
  /-- An object without this member. -/
  | missing
  /-- An array that ends before this field. -/
  | cutOff

namespace Slot

def required (decode : Decoder α) (room : Nat) : Slot → Option α
  | given d => decode room d
  | _ => none

/-- A field that may be missing from an object, but not from an array. -/
def optional (decode : Decoder α) (room : Nat) : Slot → Option (Option α)
  | given d => option decode room d
  | missing => some none
  | cutOff => none

def defaulted (decode : Decoder α) (default : α) (room : Nat) : Slot → Option α
  | given d => decode room d
  | _ => some default

end Slot

/-- The slots of an object: a member named twice is refused, and members that are no fields are
skipped unread. -/
def memberSlot? (members : List (Option String × Document)) (name : String) : Option Slot :=
  match members.filter (·.1 == some name) with
  | [] => some .missing
  | [(_, d)] => some (.given d)
  | _ => none

/-- The slots of an array, one for each field in order. Items beyond the fields are refused. -/
def itemSlots? : List String → List Document → Option (List Slot)
  | [], [] => some []
  | [], _ :: _ => none
  | _ :: names, [] => (itemSlots? names []).map (.cutOff :: ·)
  | _ :: names, d :: rest => (itemSlots? names rest).map (.given d :: ·)

/-- A structure is written as an object, or as an array of its fields in order. -/
def slots? (names : List String) : Document → Option (List Slot)
  | .object members =>
    if members.any (·.1.isNone) then none else names.mapM (memberSlot? members)
  | .array items => itemSlots? names items
  | _ => none

def struct (names : List String) (build : Nat → List Slot → Option α) : Decoder α
  | room + 1, d => (slots? names d).bind (build room)
  | 0, _ => none

/-- One of several named alternatives: its name alone, or an object with the name as only key. -/
inductive Alternative where
  | plain (name : String)
  | carrying (name : String) (content : Document)

def alternative? : Decoder Alternative
  | _, .string (some name) => some (.plain name)
  | _ + 1, .object [(some name, content)] => some (.carrying name content)
  | _, _ => none

/-- An alternative without content is written as its name, or with a null. -/
def plainName? : Alternative → Option String
  | .plain name => some name
  | .carrying name .null => some name
  | _ => none

def oneOf (choices : List (String × α)) : Decoder α := fun room d =>
  (alternative? room d).bind fun a => (plainName? a).bind (Assoc.get? · choices)

end Decoder

end SqlGateway.Json
