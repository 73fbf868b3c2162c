import SqlGateway.Proofs.Name

/-! Where a projection ends. A projection is free text with blanks in it, and its names may be
words such as `FROM`; yet no accepted projection goes on, behind a shorter one, with that word. -/
namespace SqlGateway.Projection

open Text

/-- The entry that a projection ends with has one word or three. -/
theorem length_words_last {cs last : List Char} {init : List (List Char)}
    (h : acceptsChars cs = true) (hsplit : splitAt ',' cs = init ++ [last]) :
    (words last).length = 1 ∨ (words last).length = 3 := by
  rw [acceptsChars, Bool.or_eq_true, List.all_eq_true] at h
  obtain hstar | hentries := h
  · rw [beq_iff_eq.mp hstar] at hsplit
    have hlast : last = ['*'] := by
      have := congrArg List.getLast? hsplit
      rw [List.getLast?_concat] at this
      exact (Option.some.inj this).symm
    rw [hlast]
    exact .inl rfl
  · have hentry := hentries last (hsplit ▸ List.mem_append_right _ List.mem_cons_self)
    obtain ⟨path, hwords, -⟩ | ⟨path, keyword, name, hwords, -⟩ := isEntry_cases hentry
    · exact .inl (by rw [hwords]; rfl)
    · exact .inr (by rw [hwords]; rfl)

/-- `FROM` is not the word before an alias, and an alias is the last word of its entry. -/
theorem isEntry_append_from {ws : List (List Char)} (h : ws.length = 1 ∨ ws.length = 3)
    (more : List (List Char)) : isEntry (ws ++ "FROM".toList :: more) = false := by
  obtain h | h := h
  · obtain ⟨path, rfl⟩ := List.length_eq_one_iff.mp h
    match more with
    | [] => rfl
    | [name] => rfl
    | _ :: _ :: _ => rfl
  · obtain ⟨path, keyword, name, rfl⟩ := List.length_eq_three.mp h
    rfl

/-- What stands behind `FROM` before the next comma is nothing, or starts with a blank. -/
theorem splitAt_from {rest : List Char} (h : rest = [] ∨ ∃ t, rest = ' ' :: t) :
    ∃ tail entries, splitAt ',' (" FROM".toList ++ rest) = (" FROM".toList ++ tail) :: entries ∧
      (tail = [] ∨ ∃ t, tail = ' ' :: t) := by
  have hword : splitAt ',' " FROM".toList = [" FROM".toList] := by decide
  obtain ⟨init, last, tail, entries, hinit, htail, hall⟩ :=
    splitWhere_append (p := (· == ',')) " FROM".toList rest
  obtain ⟨rfl, rfl⟩ : init = [] ∧ last = " FROM".toList := by
    have := List.append_inj' (hinit.symm.trans (hword.trans (List.nil_append _).symm)) rfl
    exact ⟨this.1, List.singleton_inj.mp this.2⟩
  refine ⟨tail, entries, hall, ?_⟩
  obtain rfl | ⟨t, rfl⟩ := h
  · cases htail
    exact .inl rfl
  · rw [splitWhere, if_neg (by decide)] at htail
    split at htail <;> · cases htail; exact .inr ⟨_, rfl⟩

theorem not_acceptsChars_append_from {cs rest : List Char} (h : acceptsChars cs = true)
    (hrest : rest = [] ∨ ∃ t, rest = ' ' :: t) :
    acceptsChars (cs ++ (" FROM".toList ++ rest)) = false := by
  obtain ⟨init, last, first, entries, hsplit, hfirst, hall⟩ :=
    splitWhere_append (p := (· == ',')) cs (" FROM".toList ++ rest)
  obtain ⟨tail, entries', hfrom, htail⟩ := splitAt_from hrest
  obtain ⟨rfl, rfl⟩ := List.cons.inj (hfirst.symm.trans hfrom)
  -- the entry in which `cs` ends now has `FROM` as its second or fourth word
  have hwords : ∃ more, words (last ++ (" FROM".toList ++ tail)) =
      words last ++ "FROM".toList :: more := by
    have hblank : isBlank ' ' = true := rfl
    have hword : words "FROM".toList = ["FROM".toList] := by decide
    obtain rfl | ⟨t, rfl⟩ := htail
    · exact ⟨[], (words_append_cons hblank last "FROM".toList).trans (by rw [hword])⟩
    · refine ⟨words t, (words_append_cons hblank last ("FROM".toList ++ ' ' :: t)).trans ?_⟩
      rw [words_append_cons hblank, hword, List.singleton_append]
  obtain ⟨more, hmore⟩ := hwords
  have hentry := isEntry_append_from (length_words_last h hsplit) more
  rw [acceptsChars, Bool.or_eq_false_iff]
  constructor
  · rw [beq_eq_false_iff_ne]
    intro heq
    have := congrArg List.length heq
    simp at this
    omega
  · rw [splitAt, hall, List.all_append, List.all_cons, hmore, hentry, Bool.false_and,
      Bool.and_false]

/-- A text that may stand between two occurrences of ` FROM ` is empty or repeats the word. -/
theorem eq_nil_or_from {a x y : List Char}
    (h : " FROM ".toList ++ x = a ++ (" FROM ".toList ++ y)) :
    a = [] ∨ ∃ rest, a = " FROM".toList ++ rest ∧ (rest = [] ∨ ∃ t, rest = ' ' :: t) := by
  rcases a with _ | ⟨c₁, _ | ⟨c₂, _ | ⟨c₃, _ | ⟨c₄, _ | ⟨c₅, _ | ⟨c₆, t⟩⟩⟩⟩⟩⟩ <;> simp at h
  · exact .inl rfl
  · obtain ⟨rfl, rfl, rfl, rfl, rfl, -⟩ := h
    exact .inr ⟨[], rfl, .inl rfl⟩
  · obtain ⟨rfl, rfl, rfl, rfl, rfl, rfl, -⟩ := h
    exact .inr ⟨' ' :: t, rfl, .inr ⟨t, rfl⟩⟩

theorem eq_nil_of_append_from {cs a x y : List Char} (h : acceptsChars cs = true)
    (ha : acceptsChars (cs ++ a) = true)
    (hfrom : " FROM ".toList ++ x = a ++ (" FROM ".toList ++ y)) : a = [] := by
  obtain hnil | ⟨rest, rfl, hrest⟩ := eq_nil_or_from hfrom
  · exact hnil
  · rw [not_acceptsChars_append_from h hrest] at ha
    cases ha

/-- Two texts that start with an accepted projection and ` FROM ` and are equal have the same
projection. -/
theorem append_from_cancel {p q : String} {x y : List Char} (hp : accepts p = true)
    (hq : accepts q = true)
    (h : p.toList ++ (" FROM ".toList ++ x) = q.toList ++ (" FROM ".toList ++ y)) :
    p = q ∧ x = y := by
  have heq : p.toList = q.toList := by
    obtain ⟨a, hpq, hfrom⟩ | ⟨a, hqp, hfrom⟩ := List.append_eq_append_iff.mp h
    · have hnil := eq_nil_of_append_from hp (hpq ▸ hq) hfrom
      rw [hpq, hnil, List.append_nil]
    · have hnil := eq_nil_of_append_from hq (hqp ▸ hp) hfrom
      rw [hqp, hnil, List.append_nil]
  refine ⟨String.toList_inj.mp heq, ?_⟩
  rw [heq] at h
  exact List.append_cancel_left (List.append_cancel_left h)

end SqlGateway.Projection
