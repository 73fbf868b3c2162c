import SqlGateway.Text.Numeral
import SqlGateway.Text.Split

/-! Properties of characters as tables. A table is written as words: a code point or a span of
them, `300-36F`, perhaps with a step, `100-12E/2`, and behind an equals sign the value that the
property has there. All numbers are hexadecimal. -/
namespace SqlGateway.Unicode

/-- Every `step`-th code point from `first` to `last` has the value. -/
structure Run (α : Type) where
  first : Nat
  last : Nat
  step : Nat
  value : α

def Run.holds (r : Run α) (code : Nat) : Bool :=
  r.first ≤ code && code ≤ r.last && (code - r.first) % r.step = 0

abbrev Table (α : Type) := List (Run α)

namespace Table

def run? (t : Table α) (code : Nat) : Option (Run α) := t.find? (·.holds code)

def get? (t : Table α) (c : Char) : Option α := (t.run? c.toNat).map (·.value)

def contains (t : Table α) (c : Char) : Bool := (t.run? c.toNat).isSome

def readCode? (cs : List Char) : Option Nat :=
  if cs.isEmpty then none else Text.readNumber? 16 cs

def readCodes? (cs : List Char) : Option (List Nat) :=
  if cs.isEmpty then some [] else (Text.splitAt '.' cs).mapM readCode?

def readSpan? (cs : List Char) : Option (Nat × Nat) :=
  match (Text.splitAt '-' cs).mapM readCode? with
  | some [code] => some (code, code)
  | some [first, last] => some (first, last)
  | _ => none

def readRun? (value? : List Char → Option α) (cs : List Char) : Option (Run α) := do
  let codes := cs.takeWhile (· != '=')
  let (first, last) ← readSpan? (codes.takeWhile (· != '/'))
  let step ← match codes.dropWhile (· != '/') with
    | [] => some 1
    | _ :: step => readCode? step
  return ⟨first, last, step, ← value? (cs.dropWhile (· != '=')).tail⟩

def ofText (value? : List Char → Option α) (text : String) : Table α :=
  (Text.words text.toList).filterMap (readRun? value?)

/-- A table that only tells which characters have the property. -/
def ofSpans (text : String) : Table Unit := ofText (fun _ => some ()) text

end Table

end SqlGateway.Unicode
