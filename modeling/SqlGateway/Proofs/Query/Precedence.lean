import Mathlib.Algebra.GroupWithZero.Nat
import SqlGateway.Proofs.Query.Acceptance

/-! Which fault a rejected query is told. What is asked of a query stands in one list, each
requirement with the error of a query that does not meet it; a query is rejected with the error of
the first requirement that it does not meet, and accepted when there is none. -/
namespace SqlGateway.Query

/-- A condition on a query and the error of one that does not meet it. -/
structure Requirement where
  met : Prop
  error : QueryError

/-- The error is that of the first requirement that is not met. -/
def FirstUnmet (requirements : List Requirement) (e : QueryError) : Prop :=
  ∃ before r after, requirements = before ++ r :: after ∧ (∀ b ∈ before, b.met) ∧
    ¬ r.met ∧ r.error = e

theorem not_firstUnmet_nil (e : QueryError) : ¬ FirstUnmet [] e := by
  rintro ⟨before, r, after, hsplit, -⟩
  exact List.append_ne_nil_of_right_ne_nil before (List.cons_ne_nil r after) hsplit.symm

theorem firstUnmet_cons_iff {r : Requirement} {rs : List Requirement} {e : QueryError} :
    FirstUnmet (r :: rs) e ↔ (¬ r.met ∧ r.error = e) ∨ (r.met ∧ FirstUnmet rs e) := by
  constructor
  · rintro ⟨before, r', after, hsplit, hbefore, hunmet, herror⟩
    cases before with
    | nil =>
        obtain ⟨rfl, rfl⟩ := List.cons.inj hsplit
        exact .inl ⟨hunmet, herror⟩
    | cons b before =>
        obtain ⟨rfl, rfl⟩ := List.cons.inj hsplit
        rw [List.forall_mem_cons] at hbefore
        exact .inr ⟨hbefore.1, before, r', after, rfl, hbefore.2, hunmet, herror⟩
  · rintro (⟨hunmet, herror⟩ | ⟨hmet, before, r', after, rfl, hbefore, hunmet, herror⟩)
    · exact ⟨[], r, rs, rfl, List.forall_mem_nil _, hunmet, herror⟩
    · exact ⟨r :: before, r', after, rfl, List.forall_mem_cons.mpr ⟨hmet, hbefore⟩, hunmet, herror⟩

theorem firstUnmet_append_iff {rs ss : List Requirement} {e : QueryError} :
    FirstUnmet (rs ++ ss) e ↔ FirstUnmet rs e ∨ (∀ r ∈ rs, r.met) ∧ FirstUnmet ss e := by
  induction rs with
  | nil => simp [not_firstUnmet_nil]
  | cons r rs ih =>
      rw [List.cons_append, firstUnmet_cons_iff, firstUnmet_cons_iff, ih, List.forall_mem_cons]
      by_cases h : r.met
      · simp only [h, not_true, true_and, false_and, false_or]
      · simp only [h, not_false_iff, true_and, false_and, or_false]

/-- The check fails with the first unmet requirement, and only then. -/
structure Enforces (check : Except QueryError Unit) (requirements : List Requirement) : Prop where
  ok_iff : check = .ok () ↔ ∀ r ∈ requirements, r.met
  error_iff : ∀ e, check = .error e ↔ FirstUnmet requirements e

namespace Enforces

theorem nil : Enforces (.ok ()) [] := by
  refine ⟨by simp, fun e => ?_⟩
  simp [not_firstUnmet_nil]

variable {met p : Prop} [Decidable p] {e : QueryError}

theorem ite (h : p ↔ met) : Enforces (if p then .ok () else .error e) [⟨met, e⟩] := by
  by_cases hp : p
  · have hmet := h.mp hp
    exact ⟨by simp [hp, hmet], by simp [hp, hmet, firstUnmet_cons_iff, not_firstUnmet_nil]⟩
  · have hunmet := mt h.mpr hp
    exact ⟨by simp [hp, hunmet], by simp [hp, hunmet, firstUnmet_cons_iff]⟩

theorem ite_not (h : p ↔ ¬ met) : Enforces (if p then .error e else .ok ()) [⟨met, e⟩] := by
  by_cases hp : p
  · have hunmet := h.mp hp
    exact ⟨by simp [hp, hunmet], by simp [hp, hunmet, firstUnmet_cons_iff]⟩
  · have hmet := Classical.not_not.mp (mt h.mpr hp)
    exact ⟨by simp [hp, hmet], by simp [hp, hmet, firstUnmet_cons_iff, not_firstUnmet_nil]⟩

/-- What stands behind an unmet requirement is not looked at. -/
theorem error (h : ¬ met) (rs : List Requirement) : Enforces (.error e) (⟨met, e⟩ :: rs) :=
  ⟨by simp [h], by simp [h, firstUnmet_cons_iff]⟩

/-- The second check is made where the first one has found nothing. -/
theorem bind {first second : Except QueryError Unit} {rs ss : List Requirement}
    (hfirst : Enforces first rs) (hsecond : Enforces second ss) :
    Enforces (first >>= fun _ => second) (rs ++ ss) := by
  constructor
  · rw [bind_unit_eq_ok_iff, hfirst.ok_iff, hsecond.ok_iff, List.forall_mem_append]
  · intro e
    rw [firstUnmet_append_iff, ← hfirst.error_iff, ← hfirst.ok_iff, ← hsecond.error_iff]
    cases first with
    | error e' => exact ⟨.inl, fun h => h.resolve_right fun h => nomatch h.1⟩
    | ok u => exact ⟨fun h => .inr ⟨rfl, h⟩, fun h => (h.resolve_left fun h => nomatch h).2⟩

end Enforces

/-- The name may stand in a statement. -/
def named (role : NameRole) (name : String) : Requirement :=
  ⟨Identifier.accepts name = true, .invalidName role name⟩

/-- The number of rows is a signed 64-bit number. -/
def countable (clause : RowClause) (count : UInt64) : Requirement :=
  ⟨count.toNat ≤ 0x7fffffffffffffff, .invalidQuery (.rowCount clause count)⟩

def recordRequirements (purpose : RecordUse) (record : Record) : List Requirement :=
  ⟨record.fields ≠ [], .invalidQuery (.noColumns purpose)⟩ ::
    record.fields.map fun field => named .column field.1

def operationRequirements (q : Query) : Operation → List Requirement
  | .select =>
    [⟨Projection.accepts q.projection = true, .invalidName .projection q.projection⟩] ++
      (q.order.toList.map fun entry => named .column entry.1) ++
      ((if q.singleRow then some 1 else q.window.limit).toList.map (countable .limit)) ++
      ((q.window.offset.filter (0 < ·)).toList.map (countable .offset))
  | .insert record => recordRequirements .insert record
  | .update record => recordRequirements .update record
  | .delete => []

/-- How many values a condition binds. -/
def valueCount : Filter → Nat
  | .compare _ _ _ => 1
  | .among _ values => values.length

/-- How many values a statement binds. -/
def boundCount (q : Query) : Operation → Nat
  | .select => (q.filters.map valueCount).sum
  | .insert record => record.fields.length
  | .update record => record.fields.length + (q.filters.map valueCount).sum
  | .delete => (q.filters.map valueCount).sum

/-- All that is asked of a query and an operation, in the order in which faults are told. The
conditions are looked at for every operation, also for an insertion, which does not write them. -/
def requirements (q : Query) (operation : Operation) : List Requirement :=
  (q.deferred.toList.map fun e => ⟨q.deferred = none, e⟩) ++
    [named .table q.table] ++
    (q.filters.map fun f => named .column f.column) ++
    q.operationRequirements operation ++
    [⟨q.boundCount operation ≤ 65535, .invalidQuery (.parameterCount (q.boundCount operation))⟩]

theorem length_values (f : Filter) : f.values.length = valueCount f := by
  cases f <;> rfl

theorem length_filterValues (q : Query) :
    q.filterValues.length = (q.filters.map valueCount).sum := by
  simp only [filterValues, List.length_flatMap, length_values]

theorem length_boundValues (q : Query) (operation : Operation) :
    (q.boundValues operation).length = q.boundCount operation := by
  cases operation with
  | select => exact q.length_filterValues
  | insert record => exact List.length_map _
  | update record =>
      rw [boundValues, List.length_append, length_filterValues, Record.values, List.length_map]
      rfl
  | delete => exact q.length_filterValues

theorem enforces_checkName (role : NameRole) (name : String) :
    Enforces (checkName role name) [named role name] := .ite .rfl

theorem enforces_checkColumns (names : List String) :
    Enforces (checkColumns names) (names.map (named .column)) := by
  induction names with
  | nil => exact .nil
  | cons name names ih => exact (enforces_checkName .column name).bind ih

theorem enforces_checkProjection (projection : String) :
    Enforces (checkProjection projection)
      [⟨Projection.accepts projection = true, .invalidName .projection projection⟩] := .ite .rfl

theorem enforces_checkRowCount (clause : RowClause) (count : Option UInt64) :
    Enforces (checkRowCount clause count) (count.toList.map (countable clause)) := by
  cases count with
  | none => exact .nil
  | some n => exact .ite Nat.lt_succ_iff

theorem enforces_checkRecord (purpose : RecordUse) (record : Record) :
    Enforces (checkRecord purpose record) (recordRequirements purpose record) := by
  have hempty : Enforces
      (if record.isEmpty then .error (.invalidQuery (.noColumns purpose)) else .ok ())
      [⟨record.fields ≠ [], .invalidQuery (.noColumns purpose)⟩] := by
    apply Enforces.ite_not
    rw [Record.isEmpty, List.isEmpty_iff]
    exact Classical.not_not.symm
  have hcolumns := enforces_checkColumns record.columns
  rw [Record.columns, Assoc.names, List.map_map] at hcolumns
  have hcheck : checkRecord purpose record =
      (if record.isEmpty then .error (.invalidQuery (.noColumns purpose)) else .ok ()) >>=
        fun _ => checkColumns (record.fields.map Prod.fst) := by
    unfold checkRecord
    split
    · rfl
    · rfl
  rw [hcheck]
  exact hempty.bind hcolumns

theorem enforces_checkParameterCount (count : Nat) :
    Enforces (checkParameterCount count)
      [⟨count ≤ 65535, .invalidQuery (.parameterCount count)⟩] := .ite_not Nat.not_le.symm

theorem enforces_checkOperation (q : Query) (operation : Operation) :
    Enforces (q.checkOperation operation) (q.operationRequirements operation) := by
  cases operation with
  | select =>
      have horder := enforces_checkColumns (q.order.toList.map Prod.fst)
      rw [List.map_map] at horder
      have hcounts := (enforces_checkRowCount .limit q.effectiveLimit).bind
        (enforces_checkRowCount .offset q.effectiveOffset)
      rw [operationRequirements, List.append_assoc, List.append_assoc]
      exact (enforces_checkProjection q.projection).bind (horder.bind hcounts)
  | insert record => exact enforces_checkRecord .insert record
  | update record => exact enforces_checkRecord .update record
  | delete => exact .nil

theorem enforces_check (q : Query) (operation : Operation) :
    Enforces (q.check operation) (q.requirements operation) := by
  have hcolumns := enforces_checkColumns (q.filters.map Filter.column)
  rw [List.map_map] at hcolumns
  have hcount := enforces_checkParameterCount (q.boundValues operation).length
  rw [length_boundValues] at hcount
  have hchecks := (enforces_checkName .table q.table).bind
    (hcolumns.bind ((q.enforces_checkOperation operation).bind hcount))
  rw [requirements, List.append_assoc, List.append_assoc, List.append_assoc]
  unfold check
  rw [length_boundValues]
  cases hdeferred : q.deferred with
  | none => exact hchecks
  | some e => exact .error nofun _

theorem compile_eq_error_iff {q : Query} {operation : Operation} {e : QueryError} :
    q.compile operation = .error e ↔ q.check operation = .error e := by
  rw [compile]
  cases q.check operation with
  | error e' =>
      constructor
      · intro h
        exact congrArg _ (Except.error.inj h)
      · intro h
        exact congrArg _ (Except.error.inj h)
  | ok u =>
      constructor
      · intro h
        cases h
      · intro h
        cases h

/-- A query with an operation is compiled exactly if it meets all requirements, and rejected with
the error of the first one in their order that it does not meet. -/
theorem compile_tells_first_unmet (q : Query) (operation : Operation) :
    ((∃ s, q.compile operation = .ok s) ↔ ∀ r ∈ q.requirements operation, r.met) ∧
      ∀ e, q.compile operation = .error e ↔ FirstUnmet (q.requirements operation) e := by
  have henforces := q.enforces_check operation
  constructor
  · rw [exists_compile_iff, ← check_eq_ok_iff]
    exact henforces.ok_iff
  · intro e
    rw [compile_eq_error_iff]
    exact henforces.error_iff e

/-- An insertion writes no conditions, and is rejected for the column of one. -/
example : ((Query.ofTable "tasks").addFilter (.compare "due date" .equal .null)).compile
    (.insert .empty) = .error (.invalidName .column "due date") := rfl

end SqlGateway.Query
