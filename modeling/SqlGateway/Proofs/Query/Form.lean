import Mathlib.Data.List.Forall2
import SqlGateway.Proofs.Query.Clauses

/-! What a statement is made of besides its values. Compilation commutes with every change of the
bound values: the checks see only names and counts, and a value leaves nothing but its number in
the text that is sent. Queries of one form are therefore accepted or rejected alike, however
different their values. -/
namespace SqlGateway

/-! ### Changing the values -/

section

variable (f : Value → Value)

def Fragment.mapValue : Fragment → Fragment
  | text s => text s
  | bind v => bind (f v)

def Statement.mapValues (s : Statement) : Statement :=
  { s with fragments := s.fragments.map (Fragment.mapValue f) }

def Filter.mapValues : Filter → Filter
  | compare column comparison v => compare column comparison (f v)
  | among column values => among column (values.map f)

def Record.mapValues (r : Record) : Record :=
  ⟨r.fields.map fun field => (field.1, f field.2)⟩

def Operation.mapValues : Operation → Operation
  | select => select
  | insert record => insert (record.mapValues f)
  | update record => update (record.mapValues f)
  | delete => delete

def Query.mapValues (q : Query) : Query :=
  { q with filters := q.filters.map (Filter.mapValues f) }

end

namespace Fragment

variable (f : Value → Value)

theorem written_map_mapValue (fs : List Fragment) (bound : Nat) :
    written bound (fs.map (mapValue f)) = written bound fs := by
  induction fs generalizing bound with
  | nil => rfl
  | cons fragment fs ih =>
      cases fragment with
      | text s => rw [List.map_cons, mapValue, written, written, ih]
      | bind v => rw [List.map_cons, mapValue, written, written, ih]

theorem values_map_mapValue (fs : List Fragment) :
    values (fs.map (mapValue f)) = (values fs).map f := by
  induction fs with
  | nil => rfl
  | cons fragment fs ih =>
      cases fragment with
      | text s => rw [List.map_cons, mapValue, values_text, values_text, ih]
      | bind v => rw [List.map_cons, mapValue, values_bind, values_bind, ih, List.map_cons]

end Fragment

theorem Statement.sql_mapValues (f : Value → Value) (s : Statement) :
    (s.mapValues f).sql = s.sql := by
  apply String.toList_inj.mp
  rw [toList_sql, toList_sql]
  exact Fragment.written_map_mapValue f s.fragments 0

theorem Statement.params_mapValues (f : Value → Value) (s : Statement) :
    (s.mapValues f).params = s.params.map f :=
  Fragment.values_map_mapValue f s.fragments

section

variable (f : Value → Value)

@[simp] theorem Filter.column_mapValues (filter : Filter) :
    (filter.mapValues f).column = filter.column := by
  cases filter <;> rfl

@[simp] theorem Filter.values_mapValues (filter : Filter) :
    (filter.mapValues f).values = filter.values.map f := by
  cases filter <;> rfl

@[simp] theorem Record.columns_mapValues (r : Record) : (r.mapValues f).columns = r.columns := by
  simp [Record.columns, Record.mapValues, Assoc.names]

@[simp] theorem Record.values_mapValues (r : Record) :
    (r.mapValues f).values = r.values.map f := by
  simp [Record.values, Record.mapValues]

@[simp] theorem Record.isEmpty_mapValues (r : Record) : (r.mapValues f).isEmpty = r.isEmpty := by
  simp [Record.isEmpty, Record.mapValues]

@[simp] theorem Operation.command_mapValues (operation : Operation) :
    (operation.mapValues f).command = operation.command := by
  cases operation <;> rfl

end

namespace Query

variable (f : Value → Value)

theorem columns_mapValues (q : Query) :
    (q.mapValues f).filters.map Filter.column = q.filters.map Filter.column := by
  simp [mapValues, Function.comp_def]

theorem filterValues_mapValues (q : Query) :
    (q.mapValues f).filterValues = q.filterValues.map f := by
  simp [filterValues, mapValues, List.flatMap_map, List.map_flatMap]

theorem boundValues_mapValues (q : Query) (operation : Operation) :
    (q.mapValues f).boundValues (operation.mapValues f) = (q.boundValues operation).map f := by
  cases operation with
  | select => exact filterValues_mapValues f q
  | insert record => exact record.values_mapValues f
  | update record =>
      simp [boundValues, Operation.mapValues, filterValues_mapValues]
  | delete => exact filterValues_mapValues f q

theorem checkOperation_mapValues (q : Query) (operation : Operation) :
    (q.mapValues f).checkOperation (operation.mapValues f) = q.checkOperation operation := by
  cases operation with
  | select => rfl
  | insert record => simp [checkOperation, Operation.mapValues, checkRecord]
  | update record => simp [checkOperation, Operation.mapValues, checkRecord]
  | delete => rfl

/-- Of the values the checks see only how many there are. -/
theorem check_mapValues (q : Query) (operation : Operation) :
    (q.mapValues f).check (operation.mapValues f) = q.check operation := by
  have hdeferred : (q.mapValues f).deferred = q.deferred := rfl
  have htable : (q.mapValues f).table = q.table := rfl
  rw [check, check, hdeferred, htable, columns_mapValues, checkOperation_mapValues,
    boundValues_mapValues, List.length_map]

theorem separate_map {g : Fragment → Fragment} (separator : String)
    (hg : g (.text separator) = .text separator) (parts : List (List Fragment)) :
    (separate separator parts).map g = separate separator (parts.map (List.map g)) := by
  induction parts with
  | nil => rfl
  | cons part parts ih =>
      cases parts with
      | nil => simp
      | cons next parts =>
          simp only [List.map_cons] at ih ⊢
          rw [separate_cons_cons, separate_cons_cons, List.map_append, List.map_cons, hg, ih]

theorem bindList_map (values : List Value) :
    bindList (values.map f) = (bindList values).map (Fragment.mapValue f) := by
  rw [bindList, bindList, separate_map ", " rfl, List.map_map, List.map_map]
  rfl

theorem filterFragments_mapValues (filter : Filter) :
    filterFragments (filter.mapValues f) =
      (filterFragments filter).map (Fragment.mapValue f) := by
  cases filter with
  | compare column comparison v => rfl
  | among column values =>
      cases values with
      | nil => rfl
      | cons v values =>
          have hlist := bindList_map f (v :: values)
          simp only [List.map_cons] at hlist
          simp [Filter.mapValues, filterFragments, hlist, Fragment.mapValue]

theorem whereClause_mapValues (q : Query) :
    (q.mapValues f).whereClause = q.whereClause.map (Fragment.mapValue f) := by
  have hempty : (q.mapValues f).filters.isEmpty = q.filters.isEmpty := by simp [mapValues]
  have hparts : (q.mapValues f).filters.map filterFragments =
      (q.filters.map filterFragments).map (List.map (Fragment.mapValue f)) := by
    simp [mapValues, Function.comp_def, filterFragments_mapValues]
  rw [whereClause, whereClause, hempty, hparts]
  split
  · rfl
  · rw [List.map_cons, separate_map " AND " rfl]
    rfl

theorem columnList_map (columns : List String) :
    (separate ", " (columns.map fun column => [.text column])).map (Fragment.mapValue f) =
      separate ", " (columns.map fun column => [.text column]) := by
  rw [separate_map ", " rfl, List.map_map]
  rfl

theorem assignments_mapValues (r : Record) :
    separate ", " ((r.mapValues f).fields.map assignment) =
      (separate ", " (r.fields.map assignment)).map (Fragment.mapValue f) := by
  rw [separate_map ", " rfl, Record.mapValues, List.map_map, List.map_map]
  rfl

theorem orderClause_map (q : Query) :
    q.orderClause.map (Fragment.mapValue f) = q.orderClause := by
  unfold orderClause
  split <;> rfl

theorem rowCountClause_map (keyword : String) (count : Option UInt64) :
    (rowCountClause keyword count).map (Fragment.mapValue f) = rowCountClause keyword count := by
  cases count <;> rfl

theorem fragments_mapValues (q : Query) (operation : Operation) :
    (q.mapValues f).fragments (operation.mapValues f) =
      (q.fragments operation).map (Fragment.mapValue f) := by
  have hwhere := whereClause_mapValues f q
  cases operation with
  | select =>
      have horder : (q.mapValues f).orderClause = q.orderClause := rfl
      have hlimit : (q.mapValues f).effectiveLimit = q.effectiveLimit := rfl
      have hoffset : (q.mapValues f).effectiveOffset = q.effectiveOffset := rfl
      simp only [fragments, Operation.mapValues, hwhere, horder, hlimit, hoffset, List.map_append,
        orderClause_map, rowCountClause_map]
      rfl
  | insert record =>
      simp only [fragments, Operation.mapValues, Record.columns_mapValues,
        Record.values_mapValues, bindList_map, List.map_append, columnList_map]
      rfl
  | update record =>
      simp only [fragments, Operation.mapValues, hwhere, assignments_mapValues, List.map_append]
      rfl
  | delete =>
      simp only [fragments, Operation.mapValues, hwhere, List.map_append]
      rfl

/-- Changing the values before compilation or in the statement comes to the same. -/
theorem compile_mapValues (q : Query) (operation : Operation) :
    (q.mapValues f).compile (operation.mapValues f) =
      (q.compile operation).map (Statement.mapValues f) := by
  rw [compile, compile, check_mapValues, fragments_mapValues, Operation.command_mapValues]
  cases q.check operation <;> rfl

end Query

/-! ### Queries of one form -/

/-- Conditions that differ in nothing but their values. -/
inductive Filter.SameForm : Filter → Filter → Prop
  | compare {column comparison v w} :
      SameForm (.compare column comparison v) (.compare column comparison w)
  | among {column vs ws} : vs.length = ws.length → SameForm (.among column vs) (.among column ws)

inductive Operation.SameForm : Operation → Operation → Prop
  | select : SameForm .select .select
  | insert {record other : Record} : record.columns = other.columns →
      SameForm (.insert record) (.insert other)
  | update {record other : Record} : record.columns = other.columns →
      SameForm (.update record) (.update other)
  | delete : SameForm .delete .delete

/-- Queries that differ in nothing but the values of their conditions and the number of calls that
have built them up. -/
structure Query.SameForm (q r : Query) : Prop where
  table : q.table = r.table
  projection : q.projection = r.projection
  filters : List.Forall₂ Filter.SameForm q.filters r.filters
  order : q.order = r.order
  window : q.window = r.window
  singleRow : q.singleRow = r.singleRow
  deferred : q.deferred = r.deferred

section

variable (v : Value)

theorem map_const_of_length_eq {α β : Type} {as bs : List α} (b : β)
    (h : as.length = bs.length) : as.map (fun _ => b) = bs.map (fun _ => b) := by
  rw [List.map_const', List.map_const', h]

theorem Filter.SameForm.mapValues_const {filter other : Filter} (h : SameForm filter other) :
    filter.mapValues (fun _ => v) = other.mapValues (fun _ => v) := by
  cases h with
  | compare => rfl
  | among h => rw [Filter.mapValues, Filter.mapValues, map_const_of_length_eq v h]

theorem Record.mapValues_const {record other : Record} (h : record.columns = other.columns) :
    record.mapValues (fun _ => v) = other.mapValues (fun _ => v) := by
  have erased : ∀ r : Record, r.mapValues (fun _ => v) = ⟨r.columns.map (·, v)⟩ := by
    intro r
    simp [Record.mapValues, Record.columns, Assoc.names]
  rw [erased, erased, h]

theorem Operation.SameForm.mapValues_const {operation other : Operation}
    (h : SameForm operation other) :
    operation.mapValues (fun _ => v) = other.mapValues (fun _ => v) := by
  cases h with
  | select => rfl
  | insert h => rw [Operation.mapValues, Operation.mapValues, Record.mapValues_const v h]
  | update h => rw [Operation.mapValues, Operation.mapValues, Record.mapValues_const v h]
  | delete => rfl

theorem map_mapValues_const {filters others : List Filter}
    (h : List.Forall₂ Filter.SameForm filters others) :
    filters.map (Filter.mapValues fun _ => v) = others.map (Filter.mapValues fun _ => v) := by
  induction h with
  | nil => rfl
  | cons hfirst _ ih => rw [List.map_cons, List.map_cons, hfirst.mapValues_const v, ih]

theorem Query.SameForm.mapValues_const {q r : Query} (h : SameForm q r) :
    q.mapValues (fun _ => v) = { r.mapValues (fun _ => v) with revision := q.revision } := by
  have hfilters := map_mapValues_const v h.filters
  simp only [Query.mapValues, hfilters, h.table, h.projection, h.order, h.window, h.singleRow,
    h.deferred]

end

namespace Query

/-- The revision counts calls and has no part in the statement. -/
theorem compile_revision (q : Query) (revision : UInt64) (operation : Operation) :
    { q with revision }.compile operation = q.compile operation := rfl

theorem map_outline_mapValues (f : Value → Value) (result : Except QueryError Statement) :
    (result.map (Statement.mapValues f)).map (fun s => (s.command, s.sql, s.params.length)) =
      result.map fun s => (s.command, s.sql, s.params.length) := by
  cases result with
  | error e => rfl
  | ok s =>
      simp only [Except.map, Statement.sql_mapValues, Statement.params_mapValues,
        List.length_map]
      rfl

/-- Values have no influence on the statement: two queries with operations that differ in nothing
but their values are both compiled or both rejected with the same error, and if they are compiled,
the text that is sent and the number of parameters are the same. -/
theorem compile_eq_of_sameForm {q r : Query} {operation other : Operation} (hq : q.SameForm r)
    (ho : operation.SameForm other) :
    (q.compile operation).map (fun s => (s.command, s.sql, s.params.length)) =
      (r.compile other).map fun s => (s.command, s.sql, s.params.length) := by
  have herased : (q.mapValues fun _ => .null).compile (operation.mapValues fun _ => .null) =
      (r.mapValues fun _ => .null).compile (other.mapValues fun _ => .null) := by
    rw [hq.mapValues_const, ho.mapValues_const, compile_revision]
  rw [compile_mapValues, compile_mapValues] at herased
  rw [← map_outline_mapValues (fun _ => .null) (q.compile operation), herased,
    map_outline_mapValues]

/-- Text that would end a literal, a value of another kind and a list in the place of a number
leave the statement as it is. -/
theorem compile_of_hostile_values :
    let q := ((ofTable "agents").addFilter (.compare "name" .equal (.text "x"))).addFilter
      (.among "id" [.integer 1, .integer 2])
    let r := ((ofTable "agents").addFilter (.compare "name" .equal
      (.text "'; DROP TABLE agents; --"))).addFilter (.among "id" [.text "$3", .array [.null]])
    let operation := Operation.update (.ofPairs [("status", .text "on")])
    let other := Operation.update (.ofPairs [("status", .array [.text "'), (", .null])])
    q.SameForm r ∧ operation.SameForm other ∧
      (q.compile operation).map (fun s => (s.command, s.sql, s.params.length)) =
        (r.compile other).map fun s => (s.command, s.sql, s.params.length) := by
  intro q r operation other
  have hq : q.SameForm r :=
    ⟨rfl, rfl, .cons .compare (.cons (.among rfl) .nil), rfl, rfl, rfl, rfl⟩
  have ho : operation.SameForm other := .update rfl
  exact ⟨hq, ho, compile_eq_of_sameForm hq ho⟩

end Query

end SqlGateway
