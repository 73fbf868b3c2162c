import SqlGateway.Proofs.Query.Acceptance

/-! Which parts of a query a write sees. An update or a deletion sees the table, the conditions and
the recorded error, and an insertion sees of the conditions only whether their columns are names.
What a query holds for reading rows is neither checked nor written by a write, so a write may go
through where a selection by the same query is rejected. -/
namespace SqlGateway.Query

/-- Queries for the same rows of a table. What they hold for reading them may differ. -/
structure SameTarget (q r : Query) : Prop where
  table : q.table = r.table
  filters : q.filters = r.filters
  deferred : q.deferred = r.deferred

/-- The columns of all conditions are names. -/
def NamesColumns (q : Query) : Prop := ∀ f ∈ q.filters, Identifier.accepts f.column = true

/-- What a write asks for itself, it asks of its record alone. -/
theorem checkOperation_write {operation : Operation} (hwrite : operation ≠ .select) (q r : Query) :
    q.checkOperation operation = r.checkOperation operation := by
  cases operation with
  | select => exact absurd rfl hwrite
  | insert record => rfl
  | update record => rfl
  | delete => rfl

section

variable {q r : Query} (h : q.SameTarget r)

include h

theorem SameTarget.filterValues_eq : q.filterValues = r.filterValues := by
  rw [filterValues, filterValues, h.filters]

theorem SameTarget.whereClause_eq : q.whereClause = r.whereClause := by
  rw [whereClause, whereClause, h.filters]

theorem SameTarget.boundValues_eq (operation : Operation) :
    q.boundValues operation = r.boundValues operation := by
  cases operation with
  | select => exact h.filterValues_eq
  | insert record => rfl
  | update record => exact congrArg (record.values ++ ·) h.filterValues_eq
  | delete => exact h.filterValues_eq

variable {operation : Operation} (hwrite : operation ≠ .select)

include hwrite

theorem SameTarget.check_eq : q.check operation = r.check operation := by
  rw [check, check, h.deferred, h.table, h.filters, checkOperation_write hwrite q r,
    h.boundValues_eq]

theorem SameTarget.fragments_eq : q.fragments operation = r.fragments operation := by
  cases operation with
  | select => exact absurd rfl hwrite
  | insert record => rw [fragments, fragments, h.table]
  | update record => rw [fragments, fragments, h.table, h.whereClause_eq]
  | delete => rw [fragments, fragments, h.table, h.whereClause_eq]

theorem SameTarget.compile_eq : q.compile operation = r.compile operation := by
  rw [compile, compile, h.check_eq hwrite, h.fragments_eq hwrite]

end

/-- The query without its conditions. -/
def unconditional (q : Query) : Query := { q with filters := [] }

/-- Conditions on columns that are names are nothing to an insertion. -/
theorem compile_insert_unconditional {q : Query} (h : q.NamesColumns) (record : Record) :
    q.compile (.insert record) = q.unconditional.compile (.insert record) := by
  have hcolumns : checkColumns (q.filters.map Filter.column) = checkColumns [] :=
    checkColumns_eq_ok_iff.mpr (List.forall_mem_map.mpr h)
  have hcheck : q.check (.insert record) = q.unconditional.check (.insert record) := by
    rw [check, hcolumns]
    rfl
  rw [compile, hcheck]
  rfl

/-- Writes do not see what a query holds for reading rows. Two queries with the same table, the
same conditions and the same recorded error have the same statement or the same error for every
operation but a selection, and for an insertion the conditions need not even be the same, as long
as the columns in them are names. -/
theorem compile_write_eq {q r : Query} (htable : q.table = r.table)
    (hdeferred : q.deferred = r.deferred) :
    (q.filters = r.filters → ∀ operation : Operation, operation ≠ .select →
      q.compile operation = r.compile operation) ∧
    (q.NamesColumns → r.NamesColumns → ∀ record : Record,
      q.compile (.insert record) = r.compile (.insert record)) := by
  constructor
  · intro hfilters operation hwrite
    have htarget : q.SameTarget r := ⟨htable, hfilters, hdeferred⟩
    exact htarget.compile_eq hwrite
  · intro hq hr record
    have htarget : q.unconditional.SameTarget r.unconditional := ⟨htable, rfl, hdeferred⟩
    rw [compile_insert_unconditional hq, compile_insert_unconditional hr]
    exact htarget.compile_eq nofun

/-- A query that no selection can use, as its projection, its order and its offset are all wrong. -/
theorem write_by_an_unreadable_query :
    let r := (ofTable "tasks").addFilter (.compare "id" .equal (.integer 7))
    let q := (((r.select "id; --").orderBy "due date" .ascending).range
      0x8000000000000000 0x8000000000000000).single
    q.table = r.table ∧ q.deferred = r.deferred ∧ q.NamesColumns ∧
      (∀ s, q.compile .select ≠ .ok s) ∧
      q.compile .delete = r.compile .delete ∧
      q.compile (.insert (.ofPairs [("id", .integer 7)])) =
        (ofTable "tasks").compile (.insert (.ofPairs [("id", .integer 7)])) := by
  intro r q
  have hq : q.NamesColumns := by
    intro f hf
    cases List.mem_singleton.mp hf
    decide
  have hnone : (ofTable "tasks").NamesColumns := List.forall_mem_nil _
  have hselect : ∀ s, q.compile .select ≠ .ok s := by
    intro s hs
    have hselectable : q.Selectable := (compile_eq_ok_iff.mp hs).1.allows
    exact absurd hselectable.projection (by decide)
  obtain ⟨hwrite, -⟩ := compile_write_eq (q := q) (r := r) rfl rfl
  obtain ⟨-, hinsert⟩ := compile_write_eq (q := q) (r := ofTable "tasks") rfl rfl
  exact ⟨rfl, rfl, hq, hselect, hwrite rfl .delete nofun, hinsert hq hnone _⟩

end SqlGateway.Query
