import SqlGateway.Proofs.Text.Follow
import SqlGateway.Proofs.Text.Split

/-! Laws of the words of a text. Blanks in front of a text change nothing, a word ends where a blank
or nothing follows, and a text is told apart into blanks, its first word and the rest. -/
namespace SqlGateway.Text

theorem le_iff_toNat_le {c d : Char} : c ≤ d ↔ c.toNat ≤ d.toNat := UInt32.le_iff_toNat_le

/-- In ASCII all blanks come before the characters that are shown. -/
theorem toNat_of_isBlank {c : Char} (h : isBlank c = true) : c.toNat ≤ 32 ∨ 128 ≤ c.toNat := by
  simp only [isBlank, Bool.or_eq_true, Bool.and_eq_true, decide_eq_true_eq, beq_iff_eq,
    le_iff_toNat_le, ← Char.toNat_inj, Char.reduceToNat] at h
  omega

/-- Some characters, none of them a blank. -/
structure IsWord (w : List Char) : Prop where
  nonempty : w ≠ []
  solid : ∀ c ∈ w, isBlank c = false

/-- A word that goes on up to here has ended: a blank follows, or nothing. -/
abbrev EndsWord (x : List Char) : Prop := Stops (fun c => !isBlank c) x

theorem EndsWord.cons {c : Char} (h : isBlank c = true) (x : List Char) : EndsWord (c :: x) :=
  Stops.cons (by rw [h, Bool.not_true]) x

theorem EndsWord.blank_append {a x : List Char} (ha : ∀ c ∈ a, isBlank c = true)
    (h : a ≠ [] ∨ EndsWord x) : EndsWord (a ++ x) := by
  cases a with
  | nil => exact h.resolve_left fun hne => hne rfl
  | cons c a => exact EndsWord.cons (ha c List.mem_cons_self) _

/-- Before a word that starts here another word cannot have ended. -/
theorem IsWord.not_endsWord {w : List Char} (hw : IsWord w) (x : List Char) :
    ¬ EndsWord (w ++ x) := by
  intro h
  cases w with
  | nil => exact hw.nonempty rfl
  | cons c w =>
      have hblank : isBlank c = true := by simpa using h c rfl
      rw [hw.solid c List.mem_cons_self] at hblank
      cases hblank

theorem words_blank_append {a : List Char} (ha : ∀ c ∈ a, isBlank c = true) (b : List Char) :
    words (a ++ b) = words b := by
  induction a with
  | nil => rfl
  | cons c a ih =>
      rw [List.forall_mem_cons] at ha
      rw [List.cons_append, ← List.nil_append (c :: (a ++ b)), words_append_cons ha.1, ih ha.2]
      rfl

theorem words_of_blank {a : List Char} (ha : ∀ c ∈ a, isBlank c = true) : words a = [] := by
  rw [← List.append_nil a, words_blank_append ha]
  rfl

theorem words_of_isWord {w : List Char} (hw : IsWord w) : words w = [w] := by
  rw [words, splitWhere_eq_splitOnP, List.splitOnP_eq_singleton hw.solid]
  simp [hw.nonempty]

theorem words_append_word {w rest : List Char} (hw : IsWord w) (hrest : EndsWord rest) :
    words (w ++ rest) = w :: words rest := by
  cases rest with
  | nil =>
      rw [List.append_nil, words_of_isWord hw]
      rfl
  | cons c rest =>
      have hc : isBlank c = true := by simpa using hrest c rfl
      have htail : words (c :: rest) = words rest :=
        words_blank_append (a := [c]) (List.forall_mem_singleton.mpr hc) rest
      rw [words_append_cons hc, words_of_isWord hw, htail, List.singleton_append]

theorem blank_of_words_eq_nil {cs : List Char} (h : words cs = []) :
    ∀ c ∈ cs, isBlank c = true := by
  intro c hc
  obtain hblank | ⟨word, hword, -⟩ := blank_or_mem_word hc
  · exact hblank
  · rw [h] at hword
    cases hword

/-- The first word of a text and what stands around it. -/
theorem exists_of_words_eq_cons {cs w : List Char} {ws : List (List Char)}
    (h : words cs = w :: ws) :
    ∃ before rest, cs = before ++ (w ++ rest) ∧ (∀ c ∈ before, isBlank c = true) ∧ IsWord w ∧
      EndsWord rest ∧ words rest = ws := by
  obtain ⟨before, x, rfl, hbefore, hx⟩ := exists_run isBlank cs
  obtain ⟨w', rest, rfl, hw', hrest⟩ := exists_run (fun c => !isBlank c) x
  rw [words_blank_append hbefore] at h
  have hsolid : ∀ c ∈ w', isBlank c = false := fun c hc => by simpa using hw' c hc
  have hword : IsWord w' := by
    refine ⟨?_, hsolid⟩
    rintro rfl
    cases rest with
    | nil => cases h
    | cons c rest =>
        have hblank : isBlank c = true := by simpa using hrest c rfl
        rw [hx c rfl] at hblank
        cases hblank
  rw [words_append_word hword hrest] at h
  obtain ⟨rfl, hws⟩ := List.cons.inj h
  exact ⟨before, rest, rfl, hbefore, hword, hrest, hws⟩

end SqlGateway.Text
