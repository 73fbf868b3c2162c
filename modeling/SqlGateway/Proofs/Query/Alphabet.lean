import SqlGateway.Proofs.Name
import SqlGateway.Proofs.Query.Clauses
import SqlGateway.Proofs.Statement.Placeholders

/-! The characters of a statement that is sent. Names are checked character by character, while a
projection is checked word by word and written as it was typed. The blanks between its words are
therefore the one place where a statement may hold a character outside ASCII. -/
namespace SqlGateway

namespace Statement

/-- The signs that statements are written with. -/
def signs : List Char := ['_', '.', ',', '*', '$', '(', ')', '=', '!']

/-- A character that a server reads as the checks have read it: an ASCII letter, digit or white
space, or a sign. -/
def isInert (c : Char) : Bool :=
  c.isAlphanum || (Text.isBlank c && c.toNat < 128) || signs.contains c

theorem lt_of_isAlphanum {c : Char} (h : c.isAlphanum = true) : c.toNat < 128 := by
  simp only [Char.isAlphanum, Char.isAlpha, Char.isUpper, Char.isLower, Char.isDigit,
    Bool.or_eq_true, Bool.and_eq_true, decide_eq_true_eq, UInt32.le_iff_toNat_le, ge_iff_le] at h
  have hval : c.toNat = c.val.toNat := rfl
  have hupper : 'Z'.val.toNat = 90 := rfl
  have hlower : 'z'.val.toNat = 122 := rfl
  have hdigit : '9'.val.toNat = 57 := rfl
  omega

theorem lt_of_isInert {c : Char} (h : isInert c = true) : c.toNat < 128 := by
  rw [isInert, Bool.or_eq_true, Bool.or_eq_true, Bool.and_eq_true, decide_eq_true_eq,
    List.contains_eq_mem, decide_eq_true_eq] at h
  obtain (halnum | ⟨-, hlt⟩) | hsign := h
  · exact lt_of_isAlphanum halnum
  · exact hlt
  · have hsigns : ∀ d ∈ signs, d.toNat < 128 := by simp [signs]
    exact hsigns c hsign

theorem isInert_of_isDigit {c : Char} (h : c.isDigit = true) : isInert c = true := by
  rw [isInert, Char.isAlphanum, h, Bool.or_true, Bool.true_or, Bool.true_or]

end Statement

open Statement (isInert)

theorem Identifier.isInert_of_isNameChar {c : Char} (h : isNameChar c = true) :
    isInert c = true := by
  rw [isNameChar, isFollowing, Bool.or_eq_true, Bool.or_eq_true] at h
  obtain (halnum | hline) | hpoint := h
  · rw [isInert, halnum, Bool.true_or, Bool.true_or]
  · rw [beq_iff_eq.mp hline]
    decide
  · rw [beq_iff_eq.mp hpoint]
    decide

/-- What stands in an accepted projection besides inert characters are blanks outside ASCII. -/
theorem Projection.isInert_or_isBlank {projection : String} (h : accepts projection = true)
    {c : Char} (hc : c ∈ projection.toList) :
    isInert c = true ∨ Text.isBlank c = true ∧ 128 ≤ c.toNat := by
  obtain hword | rfl | hblank := char_of_acceptsChars h hc
  · rw [isWordChar, Bool.or_eq_true] at hword
    obtain hname | hstar := hword
    · exact .inl (Identifier.isInert_of_isNameChar hname)
    · rw [beq_iff_eq.mp hstar]
      exact .inl (by decide)
  · exact .inl (by decide)
  · obtain hlt | hle := Nat.lt_or_ge c.toNat 128
    · exact .inl (by simp [isInert, hblank, hlt])
    · exact .inr ⟨hblank, hle⟩

namespace Fragment

/-- The fragments put nothing but inert characters into the text. -/
def Inert (fs : List Fragment) : Prop := ∀ bound, ∀ c ∈ written bound fs, isInert c = true

theorem Inert.nil : Inert [] := by
  intro bound c hc
  cases hc

theorem Inert.text {s : String} {fs : List Fragment} (hs : s.toList.all isInert = true)
    (h : Inert fs) : Inert (.text s :: fs) := by
  intro bound c hc
  obtain hc | hc := List.mem_append.mp hc
  · exact List.all_eq_true.mp hs c hc
  · exact h bound c hc

theorem Inert.bind {v : Value} {fs : List Fragment} (h : Inert fs) : Inert (.bind v :: fs) := by
  intro bound c hc
  obtain rfl | hc := List.mem_cons.mp hc
  · decide
  · obtain hc | hc := List.mem_append.mp hc
    · exact Statement.isInert_of_isDigit (isDigit_of_mem_decimal c hc)
    · exact h (bound + 1) c hc

theorem Inert.append {fs gs : List Fragment} (hf : Inert fs) (hg : Inert gs) :
    Inert (fs ++ gs) := by
  intro bound c hc
  rw [written_append] at hc
  obtain hc | hc := List.mem_append.mp hc
  · exact hf bound c hc
  · exact hg _ c hc

/-- A name, and what comes behind it. -/
theorem Inert.name {name : String} {fs : List Fragment} (hname : Identifier.accepts name = true)
    (h : Inert fs) : Inert (.text name :: fs) := by
  refine .text (List.all_eq_true.mpr fun c hc => ?_) h
  exact Identifier.isInert_of_isNameChar (Identifier.isNameChar_of_accepts hname c hc)

end Fragment

namespace Query

open Fragment

theorem inert_separate {separator : String} (hs : separator.toList.all isInert = true)
    {parts : List (List Fragment)} (h : ∀ part ∈ parts, Inert part) :
    Inert (separate separator parts) := by
  induction parts with
  | nil => exact .nil
  | cons part parts ih =>
      rw [List.forall_mem_cons] at h
      cases parts with
      | nil =>
          rw [separate_singleton]
          exact h.1
      | cons next parts =>
          rw [separate_cons_cons]
          exact h.1.append (.text hs (ih h.2))

theorem inert_bindList (vs : List Value) : Inert (bindList vs) := by
  refine inert_separate (by decide) ?_
  simp only [List.forall_mem_map]
  exact fun v _ => .bind .nil

theorem inert_filterFragments {f : Filter} (h : Identifier.accepts f.column = true) :
    Inert (filterFragments f) := by
  cases f with
  | compare column comparison v =>
      have hsign : comparison.sql.toList.all isInert = true := by cases comparison <;> decide
      exact .name h (.text (by decide) (.text hsign (.text (by decide) (.bind .nil))))
  | among column vs =>
      cases vs with
      | nil => exact .text (by decide) .nil
      | cons v vs =>
          have hvalues : Inert (bindList (v :: vs) ++ [.text ")"]) :=
            (inert_bindList _).append (.text (by decide) .nil)
          exact .name h (.text (by decide) hvalues)

theorem inert_whereClause {q : Query}
    (h : ∀ f ∈ q.filters, Identifier.accepts f.column = true) : Inert q.whereClause := by
  unfold whereClause
  split
  · exact .nil
  · refine .text (by decide) (inert_separate (by decide) ?_)
    simp only [List.forall_mem_map]
    exact fun f hf => inert_filterFragments (h f hf)

theorem inert_orderClause {q : Query}
    (h : ∀ entry ∈ q.order, Identifier.accepts entry.1 = true) : Inert q.orderClause := by
  unfold orderClause
  split
  · exact .nil
  · next column direction horder =>
      have hword : direction.sql.toList.all isInert = true := by cases direction <;> decide
      exact .text (by decide) (.name (h _ horder) (.text (by decide) (.text hword .nil)))

theorem inert_rowCountClause {keyword : String} (hk : keyword.toList.all isInert = true)
    (count : Option UInt64) : Inert (rowCountClause keyword count) := by
  cases count with
  | none => exact .nil
  | some n =>
      refine .text hk (.text (List.all_eq_true.mpr fun c hc => ?_) .nil)
      rw [Nat.toString_eq_repr, Nat.toList_repr] at hc
      exact Statement.isInert_of_isDigit (isDigit_of_mem_decimal c hc)

theorem inert_columns {columns : List String}
    (h : ∀ column ∈ columns, Identifier.accepts column = true) :
    Inert (separate ", " (columns.map fun column => [.text column])) := by
  refine inert_separate (by decide) ?_
  simp only [List.forall_mem_map]
  exact fun column hcolumn => .name (h column hcolumn) .nil

theorem inert_assignments {fields : List (String × Value)}
    (h : ∀ column ∈ fields.map Prod.fst, Identifier.accepts column = true) :
    Inert (separate ", " (fields.map assignment)) := by
  refine inert_separate (by decide) ?_
  simp only [List.forall_mem_map] at h ⊢
  exact fun field hfield => .name (h field hfield) (.text (by decide) (.bind .nil))

theorem inert_returning : Inert [returning] := .text (by decide) .nil

/-- What a selection writes behind its projection. -/
def selectRest (q : Query) : List Fragment :=
  [.text " FROM ", .text q.table] ++ q.whereClause ++ q.orderClause ++
    rowCountClause " LIMIT " q.effectiveLimit ++ rowCountClause " OFFSET " q.effectiveOffset

theorem fragments_select (q : Query) :
    q.fragments .select = .text "SELECT " :: .text q.projection :: q.selectRest := rfl

theorem inert_selectRest {q : Query} (h : q.Accepted .select) : Inert q.selectRest := by
  have hselect : q.Selectable := h.allows
  have hhead : Inert [.text " FROM ", .text q.table] := .text (by decide) (.name h.table .nil)
  exact (((hhead.append (inert_whereClause h.columns)).append
    (inert_orderClause hselect.order)).append (inert_rowCountClause (by decide) _)).append
    (inert_rowCountClause (by decide) _)

/-- Apart from the projection of a selection, statements are written in inert characters. -/
theorem inert_fragments {q : Query} {operation : Operation} (h : q.Accepted operation)
    (hoperation : operation ≠ .select) : Inert (q.fragments operation) := by
  cases operation with
  | select => exact absurd rfl hoperation
  | insert record =>
      have hrecord : Writable record := h.allows
      have hhead : Inert [.text "INSERT INTO ", .text q.table, .text " ("] :=
        .text (by decide) (.name h.table (.text (by decide) .nil))
      exact (((hhead.append (inert_columns hrecord.columns)).append
        (.text (by decide) .nil)).append (inert_bindList _)).append
        (.text (by decide) inert_returning)
  | update record =>
      have hrecord : Writable record := h.allows
      have hhead : Inert [.text "UPDATE ", .text q.table, .text " SET "] :=
        .text (by decide) (.name h.table (.text (by decide) .nil))
      exact ((hhead.append (inert_assignments hrecord.columns)).append
        (inert_whereClause h.columns)).append inert_returning
  | delete =>
      have hhead : Inert [.text "DELETE FROM ", .text q.table] :=
        .text (by decide) (.name h.table .nil)
      exact (hhead.append (inert_whereClause h.columns)).append inert_returning

theorem mem_written_select {q : Query} {c : Char} :
    c ∈ written 0 (q.fragments .select) ↔
      c ∈ "SELECT ".toList ∨ c ∈ q.projection.toList ∨ c ∈ written 0 q.selectRest := by
  rw [fragments_select, written, written, List.mem_append, List.mem_append]

/-- Every character of a statement is inert, or is a blank outside ASCII in the projection of a
selection. So the text is plain ASCII without quotes, semicolons, backslashes and comments exactly
where the projection has no other blanks than those of ASCII. -/
theorem isInert_of_compile {q : Query} {operation : Operation} {s : Statement}
    (h : q.compile operation = .ok s) :
    (∀ c ∈ s.sql.toList, isInert c = true ∨
      operation = .select ∧ c ∈ q.projection.toList ∧ Text.isBlank c = true ∧ 128 ≤ c.toNat) ∧
    ((∀ c ∈ s.sql.toList, c.toNat < 128 ∧ isInert c = true) ↔
      (operation = .select →
        ∀ c ∈ q.projection.toList, Text.isBlank c = true → c.toNat < 128)) := by
  obtain ⟨haccepted, rfl⟩ := compile_eq_ok_iff.mp h
  rw [Statement.toList_sql]
  have hchars : ∀ c ∈ written 0 (q.fragments operation), isInert c = true ∨
      operation = .select ∧ c ∈ q.projection.toList ∧ Text.isBlank c = true ∧ 128 ≤ c.toNat := by
    intro c hc
    by_cases hoperation : operation = .select
    · subst hoperation
      obtain hword | hprojection | hrest := mem_written_select.mp hc
      · have hselect : "SELECT ".toList.all isInert = true := by decide
        exact .inl (List.all_eq_true.mp hselect c hword)
      · have hselect : q.Selectable := haccepted.allows
        exact (Projection.isInert_or_isBlank hselect.projection hprojection).imp_right
          fun hblank => ⟨rfl, hprojection, hblank⟩
      · exact .inl (inert_selectRest haccepted 0 c hrest)
    · exact .inl (inert_fragments haccepted hoperation 0 c hc)
  refine ⟨hchars, fun hall hoperation c hc _ => ?_, fun hblanks c hc => ?_⟩
  · subst hoperation
    exact (hall c (mem_written_select.mpr (.inr (.inl hc)))).1
  · obtain hinert | ⟨hoperation, hmem, hblank, hle⟩ := hchars c hc
    · exact ⟨Statement.lt_of_isInert hinert, hinert⟩
    · exact absurd (hblanks hoperation c hmem hblank) (Nat.not_lt_of_le hle)

/-- Blanks of ASCII, line breaks among them, do no harm. -/
theorem isInert_of_a_selection :
    let q := (((ofTable "crm.tasks").select "id,\n\towner.* , title  As\tname").addFilter
      (.among "state" [.text "open'; --", .null])).orderBy "AS" .descending
    ∃ s, q.compile .select = .ok s ∧
      (∀ c ∈ q.projection.toList, Text.isBlank c = true → c.toNat < 128) ∧
      ∀ c ∈ s.sql.toList, c.toNat < 128 ∧ isInert c = true := by
  intro q
  have hblanks : ∀ c ∈ q.projection.toList, Text.isBlank c = true → c.toNat < 128 := by
    have hall : q.projection.toList.all (fun c => !Text.isBlank c || c.toNat < 128) = true := by
      decide
    intro c hc hblank
    simpa [hblank] using List.all_eq_true.mp hall c hc
  have hcheck : q.check .select = .ok () := by
    dsimp only [q]
    rfl
  have hcompile : q.compile .select = .ok ⟨.select, q.fragments .select⟩ :=
    compile_eq_ok_iff.mpr ⟨check_eq_ok_iff.mp hcheck, rfl⟩
  exact ⟨_, hcompile, hblanks, (isInert_of_compile hcompile).2.mpr fun _ => hblanks⟩

/-- A projection is cut into words at no-break spaces and written with them, where a server takes
them for parts of a name. -/
theorem no_break_space_in_a_selection :
    let q := (ofTable "tasks").select "id\u00a0AS\u00a0name"
    ∃ s, q.compile .select = .ok s ∧ s.sql = "SELECT id\u00a0AS\u00a0name FROM tasks" ∧
      ¬ ∀ c ∈ s.sql.toList, c.toNat < 128 ∧ isInert c = true := by
  intro q
  have hcheck : q.check .select = .ok () := by
    dsimp only [q]
    rfl
  have hcompile : q.compile .select = .ok ⟨.select, q.fragments .select⟩ :=
    compile_eq_ok_iff.mpr ⟨check_eq_ok_iff.mp hcheck, rfl⟩
  have hsql : (⟨.select, q.fragments .select⟩ : Statement).sql =
      "SELECT id\u00a0AS\u00a0name FROM tasks" := by decide
  refine ⟨_, hcompile, hsql, fun hall => ?_⟩
  have hmem : '\u00a0' ∈ "SELECT id\u00a0AS\u00a0name FROM tasks".toList := by decide
  rw [hsql] at hall
  exact absurd (hall _ hmem).1 (by decide)

end Query

end SqlGateway
