import SqlGateway.Text.Split

/-! Laws of cutting a text. A cut at a separator splits the list of parts, and every character of
a text is a separator or stands in one of the parts. -/
namespace SqlGateway.Text

variable {p : Char → Bool}

theorem splitWhere_eq_splitOnP (cs : List Char) : splitWhere p cs = cs.splitOnP p := by
  induction cs with
  | nil => rfl
  | cons c cs ih =>
      rw [splitWhere, List.splitOnP_cons_eq_if_modifyHead, ih]
      split
      · rfl
      · split
        · next h => exact absurd h (List.splitOnP_ne_nil p cs)
        · next h => rw [h]; rfl

/-- A separator ends one part and starts the next. -/
theorem splitWhere_append_cons {c : Char} (hc : p c = true) (a b : List Char) :
    splitWhere p (a ++ c :: b) = splitWhere p a ++ splitWhere p b := by
  simp only [splitWhere_eq_splitOnP, List.splitOnP_append_cons _ _ hc]

/-- Where two texts meet, the last part of the one and the first part of the other are joined. -/
theorem splitWhere_append (a b : List Char) : ∃ init last first rest,
    splitWhere p a = init ++ [last] ∧ splitWhere p b = first :: rest ∧
      splitWhere p (a ++ b) = init ++ (last ++ first) :: rest := by
  obtain ⟨first, rest, hb⟩ := List.exists_cons_of_ne_nil (splitWhere_ne_nil p b)
  induction a with
  | nil => exact ⟨[], [], first, rest, rfl, hb, hb⟩
  | cons c a ih =>
      obtain ⟨init, last, first', rest', ha, hb', hab⟩ := ih
      by_cases hc : p c = true
      · refine ⟨[] :: init, last, first', rest', ?_, hb', ?_⟩
        · simp only [splitWhere, hc, if_true, ha, List.cons_append]
        · simp only [List.cons_append, splitWhere, hc, if_true, hab]
      · cases init with
        | nil =>
            refine ⟨[], c :: last, first', rest', ?_, hb', ?_⟩
            · simp only [splitWhere, hc, ha, List.nil_append, Bool.false_eq_true, if_false]
            · simp only [List.cons_append, splitWhere, hc, hab, List.nil_append,
                Bool.false_eq_true, if_false]
        | cons part init =>
            refine ⟨(c :: part) :: init, last, first', rest', ?_, hb', ?_⟩
            · simp only [splitWhere, hc, ha, List.cons_append, Bool.false_eq_true, if_false]
            · simp only [List.cons_append, splitWhere, hc, hab, Bool.false_eq_true, if_false]

section

variable (separator : Char)

theorem splitAt_append_cons (a b : List Char) :
    splitAt separator (a ++ separator :: b) = splitAt separator a ++ splitAt separator b :=
  splitWhere_append_cons (p := (· == separator)) (beq_self_eq_true separator) a b

theorem splitAt_eq_splitOn (cs : List Char) : splitAt separator cs = cs.splitOn separator :=
  splitWhere_eq_splitOnP cs

theorem intercalate_splitAt (cs : List Char) :
    [separator].intercalate (splitAt separator cs) = cs := by
  rw [splitAt_eq_splitOn, List.intercalate_splitOn]

theorem splitAt_of_notMem {cs : List Char} (h : separator ∉ cs) :
    splitAt separator cs = [cs] := by
  rw [splitAt, splitWhere_eq_splitOnP, List.splitOnP_eq_singleton]
  intro c hc
  exact beq_eq_false_iff_ne.mpr fun heq => h (heq ▸ hc)

end

theorem sep_or_mem_part {c : Char} {cs : List Char} (hc : c ∈ cs) :
    p c = true ∨ ∃ part ∈ splitWhere p cs, c ∈ part := by
  obtain ⟨a, b, rfl⟩ := List.append_of_mem hc
  by_cases h : p c = true
  · exact .inl h
  · -- the part that `c` stands in is the one where `a` and `c :: b` meet
    right
    obtain ⟨init, last, first, rest, -, hb, hab⟩ := splitWhere_append (p := p) a (c :: b)
    refine ⟨last ++ first, by rw [hab]; simp, List.mem_append_right _ ?_⟩
    rw [splitWhere, if_neg h] at hb
    split at hb <;> · cases hb; exact List.mem_cons_self

theorem words_append_cons {c : Char} (hc : isBlank c = true) (a b : List Char) :
    words (a ++ c :: b) = words a ++ words b := by
  simp only [words, splitWhere_append_cons hc, List.filter_append]

theorem blank_or_mem_word {c : Char} {cs : List Char} (hc : c ∈ cs) :
    isBlank c = true ∨ ∃ word ∈ words cs, c ∈ word := by
  refine (sep_or_mem_part hc).imp_right ?_
  rintro ⟨part, hpart, hmem⟩
  refine ⟨part, List.mem_filter.mpr ⟨hpart, ?_⟩, hmem⟩
  cases part with
  | nil => cases hmem
  | cons d part => rfl

end SqlGateway.Text
