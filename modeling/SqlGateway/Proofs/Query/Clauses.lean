import Mathlib.Data.List.Basic
import SqlGateway.Proofs.Query.Acceptance
import SqlGateway.Proofs.Statement.Text

/-! The clauses of a statement and the values that they bind. -/
namespace SqlGateway.Query

open Fragment

@[simp] theorem separate_singleton (separator : String) (part : List Fragment) :
    separate separator [part] = part := by simp [separate]

theorem separate_cons_cons (separator : String) (part next : List Fragment)
    (parts : List (List Fragment)) :
    separate separator (part :: next :: parts) =
      part ++ .text separator :: separate separator (next :: parts) := by
  simp [separate]

theorem values_separate (separator : String) (parts : List (List Fragment)) :
    values (separate separator parts) = parts.flatMap values := by
  induction parts with
  | nil => rfl
  | cons part parts ih =>
      cases parts with
      | nil => simp
      | cons next parts => rw [separate_cons_cons, values_append, values_text, ih]; rfl

theorem values_bindList (vs : List Value) : values (bindList vs) = vs := by
  rw [bindList, values_separate, List.flatMap_map]
  exact List.flatMap_singleton' vs

theorem values_filterFragments (f : Filter) : values (filterFragments f) = f.values := by
  cases f with
  | compare column comparison v => rfl
  | among column vs =>
      cases vs with
      | nil => rfl
      | cons v vs => simp [filterFragments, values_bindList, Filter.values]

theorem values_whereClause (q : Query) : values q.whereClause = q.filterValues := by
  unfold whereClause filterValues
  split
  · next h => rw [List.isEmpty_iff.mp h]; rfl
  · rw [values_text, values_separate, List.flatMap_map]
    exact List.flatMap_congr fun f _ => values_filterFragments f

theorem values_orderClause (q : Query) : values q.orderClause = [] := by
  unfold orderClause
  split <;> rfl

theorem values_rowCountClause (keyword : String) (count : Option UInt64) :
    values (rowCountClause keyword count) = [] := by
  cases count <;> rfl

theorem values_columns (columns : List String) :
    values (separate ", " (columns.map fun column => [.text column])) = [] := by
  rw [values_separate, List.flatMap_map]
  exact List.flatMap_eq_nil_iff.mpr fun _ _ => rfl

theorem values_assignments (fields : List (String × Value)) :
    values (separate ", " (fields.map assignment)) = fields.map Prod.snd := by
  rw [values_separate, List.flatMap_map]
  exact List.map_eq_flatMap.symm

/-- The fragments of a statement bind the values of the record and of the conditions, each once
and in their order. -/
theorem values_fragments (q : Query) (operation : Operation) :
    values (q.fragments operation) = q.boundValues operation := by
  cases operation with
  | select =>
      simp [fragments, boundValues, values_whereClause, values_orderClause, values_rowCountClause]
  | insert record =>
      simp [fragments, boundValues, values_columns, values_bindList, returning]
  | update record =>
      simp [fragments, boundValues, values_assignments, values_whereClause, returning,
        Record.values]
  | delete => simp [fragments, boundValues, values_whereClause, returning]

theorem params_of_compile {q : Query} {operation : Operation} {s : Statement}
    (h : q.compile operation = .ok s) : s.params = q.boundValues operation := by
  obtain ⟨-, rfl⟩ := compile_eq_ok_iff.mp h
  exact values_fragments q operation

end SqlGateway.Query
