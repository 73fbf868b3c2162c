import SqlGateway.Proofs.Except
import SqlGateway.Query.Compile

/-! What a query and an operation must meet to be compiled. The checks are read as conditions, so
that laws of statements start from the conditions and not from the order of the checks. -/
namespace SqlGateway.Query

theorem checkName_eq_ok_iff {role : NameRole} {name : String} :
    checkName role name = .ok () ↔ Identifier.accepts name = true := ite_ok_eq_ok_iff

theorem checkColumns_eq_ok_iff {names : List String} :
    checkColumns names = .ok () ↔ ∀ name ∈ names, Identifier.accepts name = true := by
  induction names with
  | nil => simp [checkColumns]
  | cons name names ih =>
      rw [checkColumns, bind_unit_eq_ok_iff, checkName_eq_ok_iff, ih, List.forall_mem_cons]

theorem checkProjection_eq_ok_iff {projection : String} :
    checkProjection projection = .ok () ↔ Projection.accepts projection = true := ite_ok_eq_ok_iff

theorem checkRowCount_eq_ok_iff {clause : RowClause} {count : Option UInt64} :
    checkRowCount clause count = .ok () ↔ ∀ n ∈ count, n.toNat < 0x8000000000000000 := by
  cases count with
  | none => simp [checkRowCount]
  | some n => rw [checkRowCount, ite_ok_eq_ok_iff]; simp

theorem checkRecord_eq_ok_iff {purpose : RecordUse} {record : Record} :
    checkRecord purpose record = .ok () ↔
      record.fields ≠ [] ∧ ∀ name ∈ record.columns, Identifier.accepts name = true := by
  unfold checkRecord Record.isEmpty
  cases h : record.fields with
  | nil => simp
  | cons f fs => simp [checkColumns_eq_ok_iff]

theorem checkParameterCount_eq_ok_iff {count : Nat} :
    checkParameterCount count = .ok () ↔ count ≤ maxParameters := by
  unfold checkParameterCount
  split <;> simp <;> omega

/-- What a selection asks of the query beyond its table and its conditions. -/
structure Selectable (q : Query) : Prop where
  projection : Projection.accepts q.projection = true
  order : ∀ entry ∈ q.order, Identifier.accepts entry.1 = true
  limit : ∀ n ∈ q.effectiveLimit, n.toNat < 0x8000000000000000
  offset : ∀ n ∈ q.effectiveOffset, n.toNat < 0x8000000000000000

theorem checkSelection_eq_ok_iff {q : Query} : q.checkSelection = .ok () ↔ q.Selectable := by
  simp only [checkSelection, bind_unit_eq_ok_iff, checkProjection_eq_ok_iff, checkColumns_eq_ok_iff,
    checkRowCount_eq_ok_iff]
  constructor
  · rintro ⟨projection, order, limit, offset⟩
    exact ⟨projection, by simpa using order, limit, offset⟩
  · rintro ⟨projection, order, limit, offset⟩
    exact ⟨projection, by simpa using order, limit, offset⟩

/-- A record that can be written: it names columns, and names them well. -/
structure Writable (record : Record) : Prop where
  nonempty : record.fields ≠ []
  columns : ∀ name ∈ record.columns, Identifier.accepts name = true

/-- What an operation asks for itself. -/
def Allows (q : Query) : Operation → Prop
  | .select => q.Selectable
  | .insert record => Writable record
  | .update record => Writable record
  | .delete => True

theorem checkOperation_eq_ok_iff {q : Query} {operation : Operation} :
    q.checkOperation operation = .ok () ↔ q.Allows operation := by
  have record : ∀ {purpose record},
      checkRecord purpose record = .ok () ↔ Writable record := fun {_ _} =>
    checkRecord_eq_ok_iff.trans ⟨fun h => ⟨h.1, h.2⟩, fun h => ⟨h.nonempty, h.columns⟩⟩
  cases operation with
  | select => exact checkSelection_eq_ok_iff
  | insert r => exact record
  | update r => exact record
  | delete => exact ⟨fun _ => trivial, fun _ => rfl⟩

structure Accepted (q : Query) (operation : Operation) : Prop where
  noError : q.deferred = none
  table : Identifier.accepts q.table = true
  columns : ∀ f ∈ q.filters, Identifier.accepts f.column = true
  allows : q.Allows operation
  count : (q.boundValues operation).length ≤ maxParameters

theorem check_eq_ok_iff {q : Query} {operation : Operation} :
    q.check operation = .ok () ↔ q.Accepted operation := by
  unfold check
  cases hd : q.deferred with
  | some e =>
      refine ⟨fun h => ?_, fun h => ?_⟩
      · cases h
      · cases hd.symm.trans h.noError
  | none =>
      simp only [bind_unit_eq_ok_iff, checkName_eq_ok_iff, checkColumns_eq_ok_iff,
        checkOperation_eq_ok_iff, checkParameterCount_eq_ok_iff, List.forall_mem_map]
      constructor
      · rintro ⟨table, columns, allows, count⟩
        exact ⟨hd, table, columns, allows, count⟩
      · rintro ⟨-, table, columns, allows, count⟩
        exact ⟨table, columns, allows, count⟩

/-- Exactly the accepted queries have a statement, and it is made of their fragments. -/
theorem compile_eq_ok_iff {q : Query} {operation : Operation} {s : Statement} :
    q.compile operation = .ok s ↔
      q.Accepted operation ∧ s = ⟨operation.command, q.fragments operation⟩ := by
  rw [compile, bind_unit_eq_ok_iff, check_eq_ok_iff]
  exact and_congr_right fun _ => ⟨fun h => (Except.ok.inj h).symm, fun h => congrArg _ h.symm⟩

theorem exists_compile_iff {q : Query} {operation : Operation} :
    (∃ s, q.compile operation = .ok s) ↔ q.Accepted operation := by
  simp only [compile_eq_ok_iff, exists_and_left, exists_eq, and_true]

end SqlGateway.Query
