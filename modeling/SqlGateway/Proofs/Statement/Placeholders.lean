import SqlGateway.Text.Numeral
import SqlGateway.Proofs.Statement.Text

/-! Reading the placeholders of a text back. The reader knows the text alone: a placeholder is a
dollar sign and all the digits behind it, so that `$1` is not read out of `$10`. -/
namespace SqlGateway

theorem Text.natOfDigits_toDigits (n : Nat) : natOfDigits (Nat.toDigits 10 n) = n := by
  have h := Nat.ofDigitChars_ten_toDigits (n := n)
  rw [Nat.ofDigitChars_eq_foldl] at h
  simpa only [natOfDigits, digitValue, Nat.mul_comm] using h

theorem isDigit_of_mem_decimal {n : Nat} : ∀ c ∈ Nat.toDigits 10 n, c.isDigit = true :=
  fun _ h => Nat.isDigit_of_mem_toDigits (by decide) (by decide) h

namespace Placeholder

/-- The digits behind each dollar sign of a text, as far as they go. -/
def numbers : List Char → List (List Char)
  | [] => []
  | c :: cs => if c = '$' then cs.takeWhile Char.isDigit :: numbers cs else numbers cs

/-- The literal of the parameter with the number that the digits tell. A number without a
parameter stays as it is. -/
def literal (params : List Value) (digits : List Char) : List Char :=
  match Text.natOfDigits digits with
  | 0 => '$' :: digits
  | k + 1 =>
    match params[k]? with
    | some v => v.literal.toList
    | none => '$' :: digits

/-- Copies a text with literals in the place of its placeholders. The flag tells that the text
goes on behind a dollar sign, where digits belong to the number and are not copied. -/
def fill (params : List Value) : Bool → List Char → List Char
  | _, [] => []
  | inNumber, c :: cs =>
    if c = '$' then literal params (cs.takeWhile Char.isDigit) ++ fill params true cs
    else if inNumber && c.isDigit then fill params true cs
    else c :: fill params false cs

theorem ne_dollar_of_isDigit {c : Char} (h : c.isDigit = true) : c ≠ '$' := by
  rintro rfl
  cases h

variable {params : List Value} {a b : List Char}

theorem numbers_append (ha : '$' ∉ a) : numbers (a ++ b) = numbers b := by
  induction a with
  | nil => rfl
  | cons c a ih =>
      rw [List.mem_cons, not_or] at ha
      rw [List.cons_append, numbers, if_neg (Ne.symm ha.1), ih ha.2]

theorem fill_append (ha : '$' ∉ a) : fill params false (a ++ b) = a ++ fill params false b := by
  induction a with
  | nil => rfl
  | cons c a ih =>
      rw [List.mem_cons, not_or] at ha
      rw [List.cons_append, fill, if_neg (Ne.symm ha.1), Bool.false_and, if_neg Bool.false_ne_true,
        ih ha.2, List.cons_append]

theorem fill_digits_append (ha : ∀ c ∈ a, c.isDigit = true) :
    fill params true (a ++ b) = fill params true b := by
  induction a with
  | nil => rfl
  | cons c a ih =>
      rw [List.forall_mem_cons] at ha
      rw [List.cons_append, fill, if_neg (ne_dollar_of_isDigit ha.1), Bool.true_and, if_pos ha.1,
        ih ha.2]

theorem fill_stops (hb : Text.Stops Char.isDigit b) :
    fill params true b = fill params false b := by
  cases b with
  | nil => rfl
  | cons c b => simp only [fill, hb c rfl, Bool.and_false]

variable {k : Nat}

theorem numbers_placeholder (hb : Text.Stops Char.isDigit b) :
    numbers ('$' :: (Nat.toDigits 10 k ++ b)) = Nat.toDigits 10 k :: numbers b := by
  have hdollar : '$' ∉ Nat.toDigits 10 k := fun h =>
    ne_dollar_of_isDigit (isDigit_of_mem_decimal _ h) rfl
  rw [numbers, if_pos rfl, Text.takeWhile_append_stops isDigit_of_mem_decimal hb,
    numbers_append hdollar]

theorem fill_placeholder {v : Value} (hv : params[k]? = some v)
    (hb : Text.Stops Char.isDigit b) :
    fill params false ('$' :: (Nat.toDigits 10 (k + 1) ++ b)) =
      v.literal.toList ++ fill params false b := by
  rw [fill, if_pos rfl, Text.takeWhile_append_stops isDigit_of_mem_decimal hb,
    fill_digits_append isDigit_of_mem_decimal, fill_stops hb, literal, Text.natOfDigits_toDigits]
  simp only [hv]

end Placeholder

namespace Fragment

/-- The texts among the fragments hold no dollar sign, and no digit follows a value. -/
def Plain : List Fragment → Prop
  | [] => True
  | text s :: rest => '$' ∉ s.toList ∧ Plain rest
  | bind _ :: rest => (∀ bound, Text.Stops Char.isDigit (written bound rest)) ∧ Plain rest

theorem numbers_written {fs : List Fragment} (h : Plain fs) (bound : Nat) :
    Placeholder.numbers (written bound fs) =
      (List.range' (bound + 1) (values fs).length).map (Nat.toDigits 10) := by
  induction fs generalizing bound with
  | nil => rfl
  | cons f fs ih =>
      cases f with
      | text s => rw [written, Placeholder.numbers_append h.1, ih h.2, values_text]
      | bind v =>
          rw [written, Placeholder.numbers_placeholder (h.1 _), ih h.2, values_bind,
            List.length_cons, List.range'_succ, List.map_cons]

/-- The parameters are those of the fragments before, and then the values of these. -/
theorem fill_written {fs : List Fragment} (h : Plain fs) (before : List Value) :
    Placeholder.fill (before ++ values fs) false (written before.length fs) = shown fs := by
  induction fs generalizing before with
  | nil => rfl
  | cons f fs ih =>
      cases f with
      | text s => rw [written, Placeholder.fill_append h.1, values_text, ih h.2, shown]
      | bind v =>
          have hv : (before ++ values (bind v :: fs))[before.length]? = some v := by simp
          have hrest := ih h.2 (before ++ [v])
          rw [List.append_assoc, List.singleton_append, List.length_append,
            List.length_singleton] at hrest
          rw [written, Placeholder.fill_placeholder hv (h.1 _), values_bind, hrest, shown]

/-- Plain fragments that may stand behind a value. -/
structure Tidy (fs : List Fragment) : Prop where
  plain : Plain fs
  stops : ∀ bound, Text.Stops Char.isDigit (written bound fs)

theorem Plain.append {fs gs : List Fragment} (hf : Plain fs) (hg : Tidy gs) :
    Plain (fs ++ gs) := by
  induction fs with
  | nil => exact hg.plain
  | cons f fs ih =>
      cases f with
      | text s => exact ⟨hf.1, ih hf.2⟩
      | bind v =>
          refine ⟨fun bound => ?_, ih hf.2⟩
          change Text.Stops Char.isDigit (written bound (fs ++ gs))
          rw [written_append]
          exact (hf.1 bound).append (hg.stops _)

theorem Tidy.nil : Tidy [] := ⟨trivial, fun _ => .nil⟩

/-- A text that may stand behind a number and has no dollar sign. -/
def Leads (s : String) : Prop :=
  '$' ∉ s.toList ∧ Text.startsOutside Char.isDigit s.toList = true

instance : DecidablePred Leads := fun _ => inferInstanceAs (Decidable (_ ∧ _))

theorem Tidy.text {s : String} (hs : Leads s) {fs : List Fragment} (h : Plain fs) :
    Tidy (.text s :: fs) := by
  refine ⟨⟨hs.1, h⟩, fun bound => ?_⟩
  obtain ⟨c, cs, hcons, hc⟩ := Text.exists_cons_of_startsOutside hs.2
  rw [written, hcons]
  exact .cons hc _

end Fragment

end SqlGateway
