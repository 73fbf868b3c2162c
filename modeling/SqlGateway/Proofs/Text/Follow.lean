import Mathlib.Data.List.TakeWhile

/-! Where a piece of text ends. A run of characters of one class ends where another character, or
nothing, follows; what may follow a piece is told by the words that it may start with. -/
namespace SqlGateway.Text

variable {p : Char → Bool}

/-- The text does not go on with a character of the class. -/
def Stops (p : Char → Bool) (x : List Char) : Prop := ∀ c ∈ x.head?, p c = false

theorem Stops.nil : Stops p [] := fun _ h => by cases h

theorem Stops.cons {c : Char} (h : p c = false) (x : List Char) : Stops p (c :: x) := by
  intro d hd
  cases Option.mem_some.mp hd
  exact h

theorem Stops.append {x y : List Char} (hx : Stops p x) (hy : Stops p y) : Stops p (x ++ y) := by
  cases x with
  | nil => exact hy
  | cons c x => exact .cons (hx c rfl) _

theorem takeWhile_append_stops {a x : List Char} (ha : ∀ c ∈ a, p c = true) (hx : Stops p x) :
    (a ++ x).takeWhile p = a := by
  rw [List.takeWhile_append_of_pos ha]
  cases x with
  | nil => simp
  | cons c x => rw [List.takeWhile_cons_of_neg (by simp [hx c rfl]), List.append_nil]

theorem dropWhile_append_stops {a x : List Char} (ha : ∀ c ∈ a, p c = true) (hx : Stops p x) :
    (a ++ x).dropWhile p = x := by
  rw [List.dropWhile_append_of_pos ha]
  cases x with
  | nil => rfl
  | cons c x => rw [List.dropWhile_cons_of_neg (by simp [hx c rfl])]

/-- Every text starts with a run of the class, which may be empty. -/
theorem exists_run (p : Char → Bool) (cs : List Char) :
    ∃ a x, cs = a ++ x ∧ (∀ c ∈ a, p c = true) ∧ Stops p x := by
  refine ⟨cs.takeWhile p, cs.dropWhile p, List.takeWhile_append_dropWhile.symm,
    fun c hc => List.mem_takeWhile_imp hc, fun c hc => ?_⟩
  have hhead := List.head?_dropWhile_not p cs
  rwa [Option.mem_def.mp hc] at hhead

theorem append_cancel_run {a b x y : List Char} (ha : ∀ c ∈ a, p c = true)
    (hb : ∀ c ∈ b, p c = true) (hx : Stops p x) (hy : Stops p y) (h : a ++ x = b ++ y) :
    a = b ∧ x = y := by
  constructor
  · rw [← takeWhile_append_stops ha hx, h, takeWhile_append_stops hb hy]
  · rw [← dropWhile_append_stops ha hx, h, dropWhile_append_stops hb hy]

/-- The text starts with a character that is not of the class. -/
def startsOutside (p : Char → Bool) (x : List Char) : Bool := !x.head?.all p

theorem exists_cons_of_startsOutside {x : List Char} (h : startsOutside p x = true) :
    ∃ c rest, x = c :: rest ∧ p c = false := by
  cases x with
  | nil => cases h
  | cons c rest => exact ⟨c, rest, rfl, by simpa [startsOutside] using h⟩

/-- Each of the words ends a run of the class. -/
def Ends (p : Char → Bool) (words : List String) : Prop :=
  ∀ word ∈ words, startsOutside p word.toList = true

instance (p : Char → Bool) (words : List String) : Decidable (Ends p words) :=
  inferInstanceAs (Decidable (∀ word ∈ words, startsOutside p word.toList = true))

/-- A word is told apart from the words: neither it nor one of them starts the other. -/
def Apart (word : String) (words : List String) : Prop :=
  word.toList ≠ [] ∧
    ∀ other ∈ words, ¬ other.toList <+: word.toList ∧ ¬ word.toList <+: other.toList

instance (word : String) (words : List String) : Decidable (Apart word words) :=
  inferInstanceAs (Decidable (_ ∧ _))

/-- The text is empty or starts with one of the words. -/
def Follows (words : List String) (x : List Char) : Prop :=
  x = [] ∨ ∃ word ∈ words, word.toList <+: x

namespace Follows

variable {words : List String} {x : List Char}

theorem nil (words : List String) : Follows words [] := .inl rfl

theorem of_mem {word : String} (h : word ∈ words) (x : List Char) :
    Follows words (word.toList ++ x) := .inr ⟨word, h, List.prefix_append _ _⟩

theorem mono {more : List String} (h : Follows words x) (hsub : words ⊆ more) :
    Follows more x :=
  h.imp_right fun ⟨word, hword, hx⟩ => ⟨word, hsub hword, hx⟩

theorem stops (h : Follows words x) (hwords : Ends p words) : Stops p x := by
  obtain rfl | ⟨word, hword, t, rfl⟩ := h
  · exact .nil
  · obtain ⟨c, rest, hword, hc⟩ := exists_cons_of_startsOutside (hwords word hword)
    rw [hword]
    exact .cons hc _

theorem not_append {w : String} {y : List Char} (h : Follows words (w.toList ++ y))
    (hw : Apart w words) : False := by
  obtain hnil | ⟨word, hword, hx⟩ := h
  · exact hw.1 (List.append_eq_nil_iff.mp hnil).1
  · obtain hle | hle := List.prefix_or_prefix_of_prefix hx (List.prefix_append w.toList y)
    · exact (hw.2 word hword).1 hle
    · exact (hw.2 word hword).2 hle

end Follows

end SqlGateway.Text
