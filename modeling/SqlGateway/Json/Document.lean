import SqlGateway.Json.Token

/-! JSON text as it is written, before anything reads a value from it: repeated keys are kept,
nesting has no limit, and numbers and strings may lack a value. What is skipped while reading is
only ever looked at in this form. -/
namespace SqlGateway.Json

inductive Document where
  | null
  | bool (b : Bool)
  | number (value : Option Number)
  | string (value : Option String)
  | array (items : List Document)
  | object (members : List (Option String × Document))

namespace Document

/-- A container that is still open; what it holds so far is newest first. -/
inductive Frame where
  | array (items : List Document)
  /-- The value of the member `key` comes next. -/
  | object (members : List (Option String × Document)) (key : Option String)

/-- What may come next, within the open containers. -/
inductive Expect where
  | value (outer : List Frame)
  | firstItem (outer : List Frame)
  | moreItems (items : List Document) (outer : List Frame)
  | firstKey (outer : List Frame)
  | nextKey (members : List (Option String × Document)) (outer : List Frame)
  | colon (members : List (Option String × Document)) (key : Option String) (outer : List Frame)
  | moreMembers (members : List (Option String × Document)) (outer : List Frame)
  | nothing (root : Document)

namespace Expect

def place (d : Document) : List Frame → Expect
  | [] => nothing d
  | .array items :: outer => moreItems (d :: items) outer
  | .object members key :: outer => moreMembers ((key, d) :: members) outer

def begin? (outer : List Frame) : Token → Option Expect
  | .null => some (place .null outer)
  | .bool b => some (place (.bool b) outer)
  | .number n => some (place (.number n) outer)
  | .string s => some (place (.string s) outer)
  | .beginArray => some (firstItem outer)
  | .beginObject => some (firstKey outer)
  | _ => none

def step : Expect → Token → Option Expect
  | value outer, t => begin? outer t
  | firstItem outer, .endArray => some (place (.array []) outer)
  | firstItem outer, t => begin? (.array [] :: outer) t
  | moreItems items outer, .comma => some (value (.array items :: outer))
  | moreItems items outer, .endArray => some (place (.array items.reverse) outer)
  | firstKey outer, .endObject => some (place (.object []) outer)
  | firstKey outer, .string key => some (colon [] key outer)
  | nextKey members outer, .string key => some (colon members key outer)
  | colon members key outer, .colon => some (value (.object members key :: outer))
  | moreMembers members outer, .comma => some (nextKey members outer)
  | moreMembers members outer, .endObject => some (place (.object members.reverse) outer)
  | _, _ => none

end Expect

def ofTokens? (tokens : List Token) : Option Document :=
  match tokens.foldlM Expect.step (.value []) with
  | some (.nothing d) => some d
  | _ => none

/-- Reads a whole text in any encoding; only the strings in it need to be UTF-8. -/
def ofBytes? (bytes : List UInt8) : Option Document := (tokens? bytes).bind ofTokens?

def ofText? (text : String) : Option Document := ofBytes? text.toUTF8.toList

mutual

def ofJson : Json → Document
  | .null => .null
  | .bool b => .bool b
  | .num n => .number (some n)
  | .str s => .string (some s)
  | .arr items => .array (ofItems items)
  | .obj members => .object (ofMembers members)

def ofItems : List Json → List Document
  | [] => []
  | j :: rest => ofJson j :: ofItems rest

def ofMembers : List (String × Json) → List (Option String × Document)
  | [] => []
  | (k, j) :: rest => (some k, ofJson j) :: ofMembers rest

end

end Document

end SqlGateway.Json
