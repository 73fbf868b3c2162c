import SqlGateway.Proofs.Name
import SqlGateway.Proofs.Query.Clauses
import SqlGateway.Proofs.Statement.Placeholders

/-! The placeholders of a compiled statement, its parameters and its text for display agree. That
no dollar sign comes from elsewhere rests on the checks of names and projections. -/
namespace SqlGateway

theorem Identifier.dollar_notMem {name : String} (h : accepts name = true) :
    '$' ∉ name.toList := fun hc => nomatch isNameChar_of_accepts h _ hc

theorem Projection.dollar_notMem {projection : String} (h : accepts projection = true) :
    '$' ∉ projection.toList := by
  intro hc
  obtain hword | hcomma | hblank := char_of_acceptsChars h hc
  · cases hword
  · cases hcomma
  · cases hblank

namespace Query

open Fragment

theorem plain_separate {separator : String} (hs : Leads separator) {parts : List (List Fragment)}
    (h : ∀ part ∈ parts, Plain part) : Plain (separate separator parts) := by
  induction parts with
  | nil => trivial
  | cons part parts ih =>
      rw [List.forall_mem_cons] at h
      cases parts with
      | nil => rw [separate_singleton]; exact h.1
      | cons next parts =>
          rw [separate_cons_cons]
          exact h.1.append (.text hs (ih h.2))

theorem plain_bindList (vs : List Value) : Plain (bindList vs) := by
  refine plain_separate (by decide) ?_
  simp only [List.forall_mem_map]
  exact fun _ _ => ⟨fun _ => .nil, trivial⟩

theorem plain_filterFragments {f : Filter} (h : Identifier.accepts f.column = true) :
    Plain (filterFragments f) := by
  have hcolumn := Identifier.dollar_notMem h
  cases f with
  | compare column comparison v =>
      refine ⟨hcolumn, by decide, ?_, by decide, fun _ => .nil, trivial⟩
      cases comparison <;> decide
  | among column vs =>
      cases vs with
      | nil => exact ⟨by decide, trivial⟩
      | cons v vs =>
          exact ⟨hcolumn, by decide, (plain_bindList (v :: vs)).append (.text (by decide) trivial)⟩

theorem tidy_whereClause {q : Query}
    (h : ∀ f ∈ q.filters, Identifier.accepts f.column = true) : Tidy q.whereClause := by
  unfold whereClause
  split
  · exact .nil
  · refine .text (by decide) (plain_separate (by decide) ?_)
    simp only [List.forall_mem_map]
    exact fun f hf => plain_filterFragments (h f hf)

theorem tidy_orderClause {q : Query}
    (h : ∀ entry ∈ q.order, Identifier.accepts entry.1 = true) : Tidy q.orderClause := by
  unfold orderClause
  split
  · exact .nil
  · next column direction horder =>
      have hcolumn := Identifier.dollar_notMem (h _ horder)
      refine .text (by decide) ⟨hcolumn, by decide, ?_, trivial⟩
      cases direction <;> decide

theorem tidy_rowCountClause {keyword : String} (hk : Leads keyword) (count : Option UInt64) :
    Tidy (rowCountClause keyword count) := by
  cases count with
  | none => exact .nil
  | some n =>
      refine .text hk ⟨fun hc => ?_, trivial⟩
      rw [Nat.toString_eq_repr, Nat.toList_repr] at hc
      exact Placeholder.ne_dollar_of_isDigit (isDigit_of_mem_decimal _ hc) rfl

theorem plain_columns {record : Record} (h : Writable record) :
    Plain (separate ", " (record.columns.map fun column => [.text column])) := by
  refine plain_separate (by decide) ?_
  simp only [List.forall_mem_map]
  exact fun column hmem => ⟨Identifier.dollar_notMem (h.columns column hmem), trivial⟩

theorem plain_assignments {record : Record} (h : Writable record) :
    Plain (separate ", " (record.fields.map assignment)) := by
  refine plain_separate (by decide) ?_
  simp only [List.forall_mem_map]
  intro field hmem
  have hcolumn := h.columns field.1 (List.mem_map_of_mem hmem)
  exact ⟨Identifier.dollar_notMem hcolumn, by decide, fun _ => .nil, trivial⟩

theorem Accepted.plain {q : Query} {operation : Operation} (h : q.Accepted operation) :
    Plain (q.fragments operation) := by
  have htable := Identifier.dollar_notMem h.table
  have hwhere := tidy_whereClause h.columns
  have hreturning : Tidy [returning] := .text (by decide) trivial
  cases operation with
  | select =>
      have hselect : q.Selectable := h.allows
      have hprojection := Projection.dollar_notMem hselect.projection
      have hopen : Plain [.text "SELECT ", .text q.projection, .text " FROM ", .text q.table] :=
        ⟨by decide, hprojection, by decide, htable, trivial⟩
      have horder := tidy_orderClause hselect.order
      have hlimit : Tidy (rowCountClause " LIMIT " q.effectiveLimit) :=
        tidy_rowCountClause (by decide) _
      have hoffset : Tidy (rowCountClause " OFFSET " q.effectiveOffset) :=
        tidy_rowCountClause (by decide) _
      exact (((hopen.append hwhere).append horder).append hlimit).append hoffset
  | insert record =>
      have hopen : Plain ([.text "INSERT INTO ", .text q.table, .text " ("] ++
          separate ", " (record.columns.map fun column => [.text column])) :=
        ⟨by decide, htable, by decide, plain_columns h.allows⟩
      have hvalues : Tidy ([.text ") VALUES ("] ++ bindList record.values) :=
        .text (by decide) (plain_bindList record.values)
      have hclose : Tidy [.text ")", returning] := .text (by decide) hreturning.plain
      simpa only [fragments, List.append_assoc] using (hopen.append hvalues).append hclose
  | update record =>
      have hopen : Plain ([.text "UPDATE ", .text q.table, .text " SET "] ++
          separate ", " (record.fields.map assignment)) :=
        ⟨by decide, htable, by decide, plain_assignments h.allows⟩
      exact (hopen.append hwhere).append hreturning
  | delete =>
      have hopen : Plain [.text "DELETE FROM ", .text q.table] := ⟨by decide, htable, trivial⟩
      exact (hopen.append hwhere).append hreturning

/-- The dollar signs of a statement start the placeholders one to the number of its parameters,
each once and in order; the parameters are the values of the record and of the conditions; and the
text for display is the statement with the literal of each parameter in its place. -/
theorem placeholders_of_compile {q : Query} {operation : Operation} {s : Statement}
    (h : q.compile operation = .ok s) :
    Placeholder.numbers s.sql.toList = (List.range' 1 s.params.length).map (Nat.toDigits 10) ∧
    s.params = q.boundValues operation ∧
    Placeholder.fill s.params false s.sql.toList = s.inlineSql.toList := by
  obtain ⟨haccepted, rfl⟩ := compile_eq_ok_iff.mp h
  have hplain := haccepted.plain
  rw [Statement.toList_sql, Statement.toList_inlineSql, Statement.params_eq]
  exact ⟨numbers_written hplain 0, values_fragments q operation, fill_written hplain []⟩

/-- A value that looks like a placeholder is none. -/
theorem placeholders_of_update :
    let q := ((ofTable "tasks").addFilter (.among "id" [])).addFilter
      (.among "owner" [.text "$1", .null])
    ∃ s, q.compile (.update (.ofPairs [("status", .text "it's")])) = .ok s ∧
      Placeholder.numbers s.sql.toList = (List.range' 1 3).map (Nat.toDigits 10) ∧
      s.params = [.text "it's", .text "$1", .null] ∧
      Placeholder.fill s.params false s.sql.toList = s.inlineSql.toList := by
  refine ⟨⟨.update, _⟩, rfl, ?_⟩
  obtain ⟨hnumbers, hparams, hfill⟩ := @placeholders_of_compile
    (((ofTable "tasks").addFilter (.among "id" [])).addFilter
      (.among "owner" [.text "$1", .null]))
    (.update (.ofPairs [("status", .text "it's")])) _ rfl
  exact ⟨hnumbers, hparams, hfill⟩

end Query

end SqlGateway
