import SqlGateway.Proofs.Text.Follow
import SqlGateway.Text.Blank

/-! What is left of a text when it is trimmed: the part between the blanks at its two ends. -/
namespace SqlGateway.Text

variable {p : Char → Bool} {cs core : List Char}

theorem Stops.of_append {a x : List Char} (h : Stops p (a ++ x)) : Stops p a := by
  cases a with
  | nil => exact .nil
  | cons c a => exact .cons (h c rfl) a

/-- The characters are `core` with blanks around it, and `core` has none at its ends. -/
structure Trimmed (cs core : List Char) : Prop where
  split : ∃ left right, cs = left ++ (core ++ right) ∧ (∀ c ∈ left, isBlank c = true) ∧
    ∀ c ∈ right, isBlank c = true
  starts : Stops isBlank core
  ends : Stops isBlank core.reverse

theorem trimmed_trimChars (cs : List Char) : Trimmed cs (trimChars cs) := by
  obtain ⟨left, x, rfl, hleft, hx⟩ := exists_run isBlank cs
  obtain ⟨right, y, hy, hright, hends⟩ := exists_run isBlank x.reverse
  have hcore : trimChars (left ++ x) = y.reverse := by
    rw [trimChars, trimLeft, trimLeft, dropWhile_append_stops hleft hx, hy,
      dropWhile_append_stops hright hends]
  have hsplit : x = y.reverse ++ right.reverse := by
    rw [← List.reverse_append, ← hy, List.reverse_reverse]
  rw [hcore]
  refine ⟨⟨left, right.reverse, by rw [← hsplit], hleft, ?_⟩, ?_, ?_⟩
  · intro c hc
    exact hright c (List.mem_reverse.mp hc)
  · rw [hsplit] at hx
    exact hx.of_append
  · rwa [List.reverse_reverse]

theorem Trimmed.trimChars_eq (h : Trimmed cs core) : trimChars cs = core := by
  obtain ⟨left, right, rfl, hleft, hright⟩ := h.split
  cases core with
  | nil =>
      -- there are only blanks, and the first cut takes them all
      have hblank : ∀ c ∈ left ++ right, isBlank c = true := by
        intro c hc
        exact (List.mem_append.mp hc).elim (hleft c) (hright c)
      have hcut := dropWhile_append_stops hblank Stops.nil
      rw [List.append_nil] at hcut
      rw [trimChars, trimLeft, trimLeft, List.nil_append, hcut]
      rfl
  | cons c core =>
      have hstarts : Stops isBlank (c :: core ++ right) := .cons (h.starts c rfl) _
      have hright' : ∀ c ∈ right.reverse, isBlank c = true := by
        intro c hc
        exact hright c (List.mem_reverse.mp hc)
      rw [trimChars, trimLeft, trimLeft, dropWhile_append_stops hleft hstarts, List.reverse_append,
        dropWhile_append_stops hright' h.ends, List.reverse_reverse]

/-- What holds of a text when it is trimmed holds of the part between the blanks. -/
theorem exists_trimmed_iff {holds : List Char → Prop} :
    (∃ core, Trimmed cs core ∧ holds core) ↔ holds (trimChars cs) := by
  constructor
  · rintro ⟨core, hcore, h⟩
    rwa [hcore.trimChars_eq]
  · intro h
    exact ⟨_, trimmed_trimChars cs, h⟩

end SqlGateway.Text
