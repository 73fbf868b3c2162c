import SqlGateway.Proofs.Decimal.Positional
import SqlGateway.Proofs.Text.Words
import SqlGateway.Value

/-! A reader of SQL literals. It knows the rules of SQL and nothing of the values: it takes one
literal from the front of a text, and tells what stands behind it. Quoted text ends at the first
quote that is not doubled, so the reader is never misled by what the text holds. -/
namespace SqlGateway

open Text (Follows Ends Stops takeWhile_append_stops dropWhile_append_stops)

/-- What a reader of SQL can tell of a literal. -/
inductive Literal where
  | null
  | boolean (b : Bool)
  | number (decimal : String)
  | text (s : String)
  | json (s : String)
  | array (items : List Literal)

namespace Literal

/-- The text up to the quote that ends it, where two quotes stand for one, and what follows. -/
def readQuoted : List Char → Option (List Char × List Char)
  | [] => none
  | '\'' :: '\'' :: cs => (readQuoted cs).map fun r => ('\'' :: r.1, r.2)
  | '\'' :: cs => some ([], cs)
  | c :: cs => (readQuoted cs).map fun r => (c :: r.1, r.2)

/-- Quoted text, which is JSON if it is cast. -/
def readText (cs : List Char) : Option (Literal × List Char) :=
  (readQuoted cs).map fun r =>
    match "::jsonb".toList.isPrefixOf? r.2 with
    | some rest => (.json (String.ofList r.1), rest)
    | none => (.text (String.ofList r.1), r.2)

def isNumberChar (c : Char) : Bool := c.isDigit || c == '-' || c == '.'

def readNumber (cs : List Char) : Option (Literal × List Char) :=
  if cs.takeWhile isNumberChar = [] then none
  else some (.number (String.ofList (cs.takeWhile isNumberChar)), cs.dropWhile isNumberChar)

def readPlain : List Char → Option (Literal × List Char)
  | '\'' :: cs => readText cs
  | cs => readNumber cs

/-- Words outside quotes are written in capitals. -/
def isCapital (c : Char) : Bool := 'A' ≤ c && c ≤ 'Z'

def keyword? (word : List Char) : Option Literal :=
  if word = "NULL".toList then some .null
  else if word = "TRUE".toList then some (.boolean true)
  else if word = "FALSE".toList then some (.boolean false)
  else none

section

variable (read : List Char → Option (Literal × List Char))

/-- Literals with a comma and a space between them, up to the bracket that ends them. -/
def readItems : Nat → List Char → Option (List Literal × List Char)
  | 0, _ => none
  | count + 1, cs =>
    match read cs with
    | some (item, ']' :: rest) => some ([item], rest)
    | some (item, ',' :: ' ' :: rest) =>
      (readItems count rest).map fun r => (item :: r.1, r.2)
    | _ => none

def readBracketed : List Char → Option (List Literal × List Char)
  | '[' :: ']' :: rest => some ([], rest)
  | '[' :: cs => readItems read cs.length cs
  | _ => none

end

/-- Arrays are read as deep as `depth` tells. -/
def readWithin : Nat → List Char → Option (Literal × List Char)
  | 0, _ => none
  | depth + 1, cs =>
    let word := cs.takeWhile isCapital
    let rest := cs.dropWhile isCapital
    if word = [] then readPlain rest
    else if word = "ARRAY".toList then
      (readBracketed (readWithin depth) rest).map fun r => (.array r.1, r.2)
    else (keyword? word).map (·, rest)

/-- One literal from the front of a text, and the rest of the text. No text holds more arrays in
each other than it has characters. -/
def read (cs : List Char) : Option (Literal × List Char) := readWithin (cs.length + 1) cs

/-- What may stand behind a literal. -/
def ends : List String := [",", "]", ")", " "]

variable {rest : List Char}

/-! ### Reading what has been written -/

theorem readQuoted_flatMap (s : List Char) (h : Stops (· == '\'') rest) :
    readQuoted (s.flatMap Value.quoteChar ++ '\'' :: rest) = some (s, rest) := by
  induction s with
  | nil =>
      cases rest with
      | nil => rfl
      | cons c rest =>
          have hc : c ≠ '\'' := ne_of_beq_false (h c rfl)
          simp [readQuoted, hc]
  | cons c s ih =>
      by_cases hc : c = '\''
      · subst hc
        simp [Value.quoteChar, readQuoted, ih]
      · simp [Value.quoteChar, hc, readQuoted, ih]

theorem toList_quote (s : String) :
    (Value.quote s).toList ++ rest = '\'' :: (s.toList.flatMap Value.quoteChar ++ '\'' :: rest) := by
  simp [Value.quote]

theorem readWithin_plain {c : Char} (depth : Nat) (hc : isCapital c = false) (cs : List Char) :
    readWithin (depth + 1) (c :: cs) = readPlain (c :: cs) := by
  simp [readWithin, hc]

theorem readWithin_quote (depth : Nat) (s : String) (h : Stops (· == '\'') rest) :
    readWithin (depth + 1) ((Value.quote s).toList ++ rest) =
      match "::jsonb".toList.isPrefixOf? rest with
      | some behind => some (.json s, behind)
      | none => some (.text s, rest) := by
  rw [toList_quote, readWithin_plain depth rfl, readPlain, readText, readQuoted_flatMap _ h,
    Option.map_some]
  cases "::jsonb".toList.isPrefixOf? rest with
  | none => rw [String.ofList_toList]
  | some behind => rw [String.ofList_toList]

theorem readWithin_text (depth : Nat) (s : String) (h : Follows ends rest) :
    readWithin (depth + 1) ((Value.quote s).toList ++ rest) = some (.text s, rest) := by
  have hcast : "::jsonb".toList.isPrefixOf? rest = none := by
    rw [Option.eq_none_iff_forall_ne_some]
    intro behind hbehind
    rw [List.isPrefixOf?_eq_some_iff_append_eq] at hbehind
    exact Follows.not_append (hbehind ▸ h) (by decide)
  rw [readWithin_quote depth s (h.stops (by decide)), hcast]

theorem readWithin_json (depth : Nat) (s : String) (rest : List Char) :
    readWithin (depth + 1) ((Value.quote s ++ "::jsonb").toList ++ rest) =
      some (.json s, rest) := by
  have hcast : "::jsonb".toList.isPrefixOf? ("::jsonb".toList ++ rest) = some rest :=
    List.isPrefixOf?_eq_some_iff_append_eq.mpr rfl
  have hstops : Stops (· == '\'') ("::jsonb".toList ++ rest) := .cons rfl _
  rw [String.toList_append, List.append_assoc, readWithin_quote depth s hstops, hcast]

theorem readWithin_word (depth : Nat) {word : List Char} (h : word.all isCapital = true)
    (hrest : Stops isCapital rest) :
    readWithin (depth + 1) (word ++ rest) =
      if word = [] then readPlain rest
      else if word = "ARRAY".toList then
        (readBracketed (readWithin depth) rest).map fun r => (.array r.1, r.2)
      else (keyword? word).map (·, rest) := by
  have hword : ∀ c ∈ word, isCapital c = true := List.all_eq_true.mp h
  simp only [readWithin, takeWhile_append_stops hword hrest, dropWhile_append_stops hword hrest]

theorem readWithin_keyword (depth : Nat) (word : String) {l : Literal}
    (hword : word.toList.all isCapital = true) (hl : keyword? word.toList = some l)
    (h : Follows ends rest) :
    readWithin (depth + 1) (word.toList ++ rest) = some (l, rest) := by
  have hempty : word.toList ≠ [] := by
    intro hempty
    rw [hempty] at hl
    cases hl
  have harray : word.toList ≠ "ARRAY".toList := by
    intro harray
    rw [harray] at hl
    cases hl
  rw [readWithin_word depth hword (h.stops (by decide)), if_neg hempty, if_neg harray, hl,
    Option.map_some]

theorem isCapital_of_isNumberChar {c : Char} (h : isNumberChar c = true) : isCapital c = false := by
  rw [isNumberChar, Bool.or_eq_true, Bool.or_eq_true, beq_iff_eq, beq_iff_eq] at h
  obtain (hdigit | rfl) | rfl := h
  · simp only [Char.isDigit_iff_toNat, Char.reduceToNat] at hdigit
    simp only [isCapital, Bool.and_eq_false_iff, decide_eq_false_iff_not, Text.le_iff_toNat_le,
      Char.reduceToNat]
    omega
  · rfl
  · rfl

theorem readPlain_of_ne {c : Char} (h : c ≠ '\'') (cs : List Char) :
    readPlain (c :: cs) = readNumber (c :: cs) := by
  unfold readPlain
  split
  · next heq => exact absurd (List.cons.inj heq).1 h
  · rfl

theorem readWithin_number (depth : Nat) {decimal : String} (hne : decimal.toList ≠ [])
    (hdecimal : ∀ c ∈ decimal.toList, isNumberChar c = true) (h : Follows ends rest) :
    readWithin (depth + 1) (decimal.toList ++ rest) = some (.number decimal, rest) := by
  have hstops : Stops isNumberChar rest := h.stops (by decide)
  have hread : readNumber (decimal.toList ++ rest) = some (.number decimal, rest) := by
    rw [readNumber, takeWhile_append_stops hdecimal hstops, dropWhile_append_stops hdecimal hstops,
      if_neg hne, String.ofList_toList]
  rw [← hread]
  obtain ⟨c, cs, hcs⟩ := List.exists_cons_of_ne_nil hne
  have hc : isNumberChar c = true := hdecimal c (hcs ▸ List.mem_cons_self)
  have hquote : c ≠ '\'' := by
    rintro rfl
    cases hc
  rw [hcs, List.cons_append, readWithin_plain depth (isCapital_of_isNumberChar hc),
    readPlain_of_ne hquote]

theorem isNumberChar_of_isPositional {cs : List Char} (h : ∀ c ∈ cs, Decimal.isPositional c = true) :
    ∀ c ∈ cs, isNumberChar c = true := by
  intro c hc
  have hpositional := h c hc
  rw [Decimal.isPositional, Bool.or_eq_true] at hpositional
  rw [isNumberChar, Bool.or_assoc, Bool.or_eq_true, Bool.or_eq_true]
  exact hpositional.imp_right .inr

/-- Numbers are written as a sign or none, and what stands behind it. -/
theorem readWithin_signed (depth : Nat) {decimal : String} {sign digits : List Char}
    (hdecimal : decimal.toList = sign ++ digits) (hsign : sign = [] ∨ sign = ['-'])
    (hne : digits ≠ []) (hdigits : ∀ c ∈ digits, Decimal.isPositional c = true)
    (h : Follows ends rest) :
    readWithin (depth + 1) (decimal.toList ++ rest) = some (.number decimal, rest) := by
  refine readWithin_number depth ?_ ?_ h
  · rw [hdecimal]
    exact List.append_ne_nil_of_right_ne_nil _ hne
  · rw [hdecimal, List.forall_mem_append]
    refine ⟨?_, isNumberChar_of_isPositional hdigits⟩
    obtain rfl | rfl := hsign
    · exact List.forall_mem_nil _
    · exact List.forall_mem_singleton.mpr rfl

theorem readWithin_int (depth : Nat) (n : Int) (h : Follows ends rest) :
    readWithin (depth + 1) ((toString n).toList ++ rest) = some (.number (toString n), rest) := by
  have hdigits : ∀ m : Nat, ∀ c ∈ Nat.toDigits 10 m, Decimal.isPositional c = true :=
    fun m => Decimal.isPositional_of_isDigit fun c hc =>
      Nat.isDigit_of_mem_toDigits (by decide) (by decide) hc
  rw [Int.toString_eq_repr, Int.repr_eq_if]
  split
  · have htext : n.toNat.repr.toList = [] ++ Nat.toDigits 10 n.toNat := Nat.toList_repr
    exact readWithin_signed depth htext (.inl rfl) Nat.toDigits_ne_nil (hdigits _) h
  · have htext : ("-" ++ (-n).toNat.repr).toList = ['-'] ++ Nat.toDigits 10 (-n).toNat := by
      rw [String.toList_append, Nat.toList_repr]
      rfl
    exact readWithin_signed depth htext (.inr rfl) Nat.toDigits_ne_nil (hdigits _) h

theorem readWithin_float (depth : Nat) (x : Float) (h : Follows ends rest) :
    readWithin (depth + 1) ((Value.floatLayout.text x).toList ++ rest) =
      some (.number (Value.floatLayout.text x), rest) := by
  obtain ⟨sign, digits, htext, hsign, hne, hdigits⟩ :=
    Decimal.text_of_positional (fun e => show Value.floatLayout.positional e = true from rfl) x
  exact readWithin_signed depth htext hsign hne hdigits h

end Literal

end SqlGateway
