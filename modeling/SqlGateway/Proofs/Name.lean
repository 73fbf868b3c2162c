import Mathlib
import SqlGateway.Projection
import SqlGateway.Proofs.Text.Split

/-! The characters of accepted names and projections. What is accepted is written into a statement
as it stands, so these classes tell which other characters of a statement are its own. -/
namespace SqlGateway

namespace Identifier

/-- A character of a simple name, or the point between a qualifier and its name. -/
def isNameChar (c : Char) : Bool := isFollowing c || c == '.'

theorem isFollowing_of_isInitial {c : Char} (h : isInitial c = true) : isFollowing c = true := by
  rw [isInitial, Bool.or_eq_true] at h
  simp only [isFollowing, Char.isAlphanum, Bool.or_eq_true]
  exact h.imp_left .inl

theorem isNameChar_of_isSimple {cs : List Char} (h : isSimple cs = true) :
    ∀ c ∈ cs, isNameChar c = true := by
  cases cs with
  | nil => cases h
  | cons d cs =>
      rw [isSimple, Bool.and_eq_true, List.all_eq_true] at h
      intro c hc
      rw [isNameChar, Bool.or_eq_true]
      obtain rfl | hc := List.mem_cons.mp hc
      · exact .inl (isFollowing_of_isInitial h.1)
      · exact .inl (h.2 c hc)

theorem isNameChar_of_isPath {cs : List Char} (h : isPath cs = true) :
    ∀ c ∈ cs, isNameChar c = true := by
  have hparts : ∀ part ∈ Text.splitAt '.' cs, isSimple part = true := by
    unfold isPath at h
    split at h
    · next name hsplit => simpa [hsplit] using h
    · next qualifier name hsplit => simpa [hsplit] using h
    · cases h
  intro c hc
  obtain hpoint | ⟨part, hpart, hmem⟩ := Text.sep_or_mem_part (p := (· == '.')) hc
  · rw [isNameChar, hpoint, Bool.or_true]
  · exact isNameChar_of_isSimple (hparts part hpart) c hmem

theorem isNameChar_of_accepts {name : String} (h : accepts name = true) :
    ∀ c ∈ name.toList, isNameChar c = true := isNameChar_of_isPath h

end Identifier

namespace Projection

open Identifier

/-- A character of a name, or the star. -/
def isWordChar (c : Char) : Bool := isNameChar c || c == '*'

theorem isWordChar_of_isNameChar {cs : List Char} (h : ∀ c ∈ cs, isNameChar c = true) :
    ∀ c ∈ cs, isWordChar c = true :=
  fun c hc => by rw [isWordChar, h c hc, Bool.true_or]

theorem isWordChar_of_isColumn {path : List Char} (h : isColumn path = true) :
    ∀ c ∈ path, isWordChar c = true := by
  unfold isColumn at h
  split at h
  · next qualifier hrev =>
      have hpath : path = qualifier.reverse ++ ['.', '*'] := by
        simpa using congrArg List.reverse hrev
      rw [hpath]
      intro c hc
      obtain hc | hc := List.mem_append.mp hc
      · exact isWordChar_of_isNameChar (isNameChar_of_isSimple h) c hc
      · obtain rfl | rfl : c = '.' ∨ c = '*' := by simpa using hc
        · rfl
        · rfl
  · exact isWordChar_of_isNameChar (isNameChar_of_isPath h)

theorem isWordChar_of_isAs {word : List Char} (h : isAs word = true) :
    ∀ c ∈ word, isWordChar c = true := by
  intro c hc
  have hmem : c.toLower ∈ ['a', 's'] := (beq_iff_eq.mp h) ▸ List.mem_map_of_mem hc
  have halpha : c.toLower.isAlpha = true := by
    obtain hlower | hlower : c.toLower = 'a' ∨ c.toLower = 's' := by simpa using hmem
    · rw [hlower]; rfl
    · rw [hlower]; rfl
  rw [Char.isAlpha_toLower_eq_isAlpha] at halpha
  simp [isWordChar, isNameChar, isFollowing, Char.isAlphanum, halpha]

/-- An entry has one word, or three where the second is the word before an alias. -/
theorem isEntry_cases {words : List (List Char)} (h : isEntry words = true) :
    (∃ path, words = [path] ∧ isColumn path = true) ∨
    (∃ path keyword name, words = [path, keyword, name] ∧ isAs keyword = true ∧
      isColumn path = true ∧ isSimple name = true) := by
  unfold isEntry at h
  split at h
  · next path => exact .inl ⟨path, rfl, h⟩
  · next path keyword name =>
      simp only [Bool.and_eq_true] at h
      exact .inr ⟨path, keyword, name, rfl, h.1.1, h.1.2, h.2⟩
  · cases h

theorem isWordChar_of_isEntry {words : List (List Char)} (h : isEntry words = true) :
    ∀ word ∈ words, ∀ c ∈ word, isWordChar c = true := by
  obtain ⟨path, rfl, hpath⟩ | ⟨path, keyword, name, rfl, has, hpath, hname⟩ := isEntry_cases h
  · simpa using isWordChar_of_isColumn hpath
  · rw [List.forall_mem_cons, List.forall_mem_cons, List.forall_mem_singleton]
    exact ⟨isWordChar_of_isColumn hpath, isWordChar_of_isAs has,
      isWordChar_of_isNameChar (isNameChar_of_isSimple hname)⟩

theorem char_of_acceptsChars {cs : List Char} (h : acceptsChars cs = true) {c : Char}
    (hc : c ∈ cs) : isWordChar c = true ∨ c = ',' ∨ Text.isBlank c = true := by
  rw [acceptsChars, Bool.or_eq_true, List.all_eq_true] at h
  obtain hstar | hentries := h
  · rw [beq_iff_eq.mp hstar] at hc
    cases List.mem_singleton.mp hc
    exact .inl rfl
  · obtain hcomma | ⟨entry, hentry, hmem⟩ := Text.sep_or_mem_part (p := (· == ',')) hc
    · exact .inr (.inl (beq_iff_eq.mp hcomma))
    · obtain hblank | ⟨word, hword, hmem⟩ := Text.blank_or_mem_word hmem
      · exact .inr (.inr hblank)
      · exact .inl (isWordChar_of_isEntry (hentries entry hentry) word hword c hmem)

end Projection

end SqlGateway
