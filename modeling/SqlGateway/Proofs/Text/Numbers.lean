import SqlGateway.Text.Numeral
import SqlGateway.Proofs.Text.Words

/-! Numbers that stand behind a word in a text. A text in which no word starts with a digit has
none, so what such a text is put in front of keeps its numbers. -/
namespace SqlGateway.Text

/-- A word of digits. -/
def isNumber (word : List Char) : Bool := !word.isEmpty && word.all Char.isDigit

/-- The number that the words start with, if they do. -/
def leading : List (List Char) → List Nat
  | [] => []
  | word :: _ => if isNumber word then [natOfDigits word] else []

/-- The numbers right behind a word, wherever it stands among the words. -/
def behind (keyword : List Char) : List (List Char) → List Nat
  | [] => []
  | word :: rest => (if word = keyword then leading rest else []) ++ behind keyword rest

/-- The numbers right behind a word of the text. -/
def numbersAfter (keyword : String) (text : String) : List Nat :=
  behind keyword.toList (words text.toList)

theorem leading_append {ws vs : List (List Char)} (hws : ∀ w ∈ ws, isNumber w = false)
    (hvs : leading vs = []) : leading (ws ++ vs) = [] := by
  cases ws with
  | nil => exact hvs
  | cons w ws => simp [leading, hws w List.mem_cons_self]

theorem behind_append {keyword : List Char} {ws vs : List (List Char)}
    (hws : ∀ w ∈ ws, isNumber w = false) (hvs : leading vs = []) :
    behind keyword (ws ++ vs) = behind keyword vs := by
  induction ws with
  | nil => rfl
  | cons w ws ih =>
      rw [List.forall_mem_cons] at hws
      rw [List.cons_append, behind, leading_append hws.2 hvs, ih hws.2, ite_self, List.nil_append]

/-- No word starts with a digit. The flag tells that a word may start here. -/
def numberFree : Bool → List Char → Bool
  | _, [] => true
  | fresh, c :: cs => !(fresh && c.isDigit) && numberFree (isBlank c) cs

section

variable {fresh : Bool} {a b : List Char}

theorem numberFree_of_fresh (h : numberFree true b = true) : numberFree fresh b = true := by
  cases b with
  | nil => rfl
  | cons c b =>
      rw [numberFree, Bool.and_eq_true] at h ⊢
      refine ⟨?_, h.2⟩
      have hdigit : c.isDigit = false := by simpa using h.1
      rw [hdigit, Bool.and_false, Bool.not_false]

theorem numberFree_append (ha : numberFree fresh a = true) (hb : numberFree true b = true) :
    numberFree fresh (a ++ b) = true := by
  induction a generalizing fresh with
  | nil => exact numberFree_of_fresh hb
  | cons c a ih =>
      rw [numberFree, Bool.and_eq_true] at ha
      rw [List.cons_append, numberFree, ha.1, ih ha.2, Bool.and_self]

theorem numberFree_of_solid (h : ∀ c ∈ a, isBlank c = false) : numberFree false a = true := by
  induction a with
  | nil => rfl
  | cons c a ih =>
      rw [List.forall_mem_cons] at h
      rw [numberFree, h.1, ih h.2, Bool.false_and, Bool.not_false, Bool.and_self]

theorem isDigit_of_isBlank {c : Char} (h : isBlank c = true) : c.isDigit = false := by
  rw [Bool.eq_false_iff]
  intro hdigit
  have hrange := toNat_of_isBlank h
  simp only [Char.isDigit_iff_toNat, Char.reduceToNat] at hdigit
  omega

theorem isBlank_of_isDigit {c : Char} (h : c.isDigit = true) : isBlank c = false := by
  rw [Bool.eq_false_iff]
  intro hblank
  rw [isDigit_of_isBlank hblank] at h
  cases h

theorem numberFree_of_blank (h : ∀ c ∈ a, isBlank c = true) : numberFree fresh a = true := by
  induction a generalizing fresh with
  | nil => rfl
  | cons c a ih =>
      rw [List.forall_mem_cons] at h
      rw [numberFree, isDigit_of_isBlank h.1, ih h.2, Bool.and_false, Bool.not_false,
        Bool.and_self]

theorem numberFree_behind_blank (ha : ∀ c ∈ a, isBlank c = true)
    (h : numberFree true (a ++ b) = true) : numberFree true b = true := by
  induction a with
  | nil => exact h
  | cons c a ih =>
      rw [List.forall_mem_cons] at ha
      rw [List.cons_append, numberFree, ha.1, Bool.and_eq_true] at h
      exact ih ha.2 h.2

theorem numberFree_behind_word (ha : ∀ c ∈ a, isBlank c = false)
    (h : numberFree false (a ++ b) = true) (hb : EndsWord b) : numberFree true b = true := by
  induction a with
  | nil =>
      cases b with
      | nil => rfl
      | cons c b =>
          have hc : isBlank c = true := by simpa using hb c rfl
          rw [List.nil_append, numberFree, Bool.and_eq_true] at h
          rw [numberFree, isDigit_of_isBlank hc, h.2, Bool.and_false, Bool.not_false,
            Bool.and_self]
  | cons c a ih =>
      rw [List.forall_mem_cons] at ha
      rw [List.cons_append, numberFree, ha.1, Bool.and_eq_true] at h
      exact ih ha.2 h.2

end

/-- The words of such a text are no numbers. -/
theorem isNumber_of_numberFree {cs : List Char} (h : numberFree true cs = true) :
    ∀ w ∈ words cs, isNumber w = false := by
  generalize hwords : words cs = ws
  induction ws generalizing cs with
  | nil => exact List.forall_mem_nil _
  | cons w ws ih =>
      obtain ⟨before, rest, rfl, hbefore, hw, hrest, hws⟩ := exists_of_words_eq_cons hwords
      have hword := numberFree_behind_blank hbefore h
      cases w with
      | nil => exact absurd rfl hw.nonempty
      | cons c w =>
          have hsolid := List.forall_mem_cons.mp hw.solid
          rw [List.cons_append, numberFree, hsolid.1, Bool.and_eq_true, Bool.true_and,
            Bool.not_eq_true'] at hword
          rw [List.forall_mem_cons]
          refine ⟨?_, ih (numberFree_behind_word hsolid.2 hword.2 hrest) hws⟩
          rw [isNumber, List.all_cons, hword.1, Bool.false_and, Bool.and_false]

end SqlGateway.Text
