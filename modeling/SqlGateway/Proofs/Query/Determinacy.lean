import SqlGateway.Proofs.Projection
import SqlGateway.Proofs.Query.ClauseReading

/-! A statement tells the query that it was made from. What differs in two queries whose statements
have the same text is only what a statement does not use, and the values that it binds. -/
namespace SqlGateway.Query

open Fragment Text

theorem Writable.columns_ok {record : Record} (h : Writable record) :
    record.columns ≠ [] ∧ ∀ name ∈ record.columns, Identifier.accepts name = true :=
  ⟨fun hnil => h.nonempty (List.map_eq_nil_iff.mp hnil), h.columns⟩

theorem Writable.fields_ok {record : Record} (h : Writable record) :
    record.fields ≠ [] ∧ ∀ field ∈ record.fields, Identifier.accepts field.1 = true :=
  ⟨h.nonempty, fun _ hmem => h.columns _ (List.mem_map_of_mem hmem)⟩

section Reading

variable {q r : Query}

theorem written_select (q : Query) : written 0 (q.fragments .select) =
    "SELECT ".toList ++ (q.projection.toList ++ (" FROM ".toList ++ (q.table.toList ++
      (written 0 q.whereClause ++ (written q.filterValues.length q.orderClause ++
        (written q.filterValues.length (rowCountClause " LIMIT " q.effectiveLimit) ++
          (written q.filterValues.length (rowCountClause " OFFSET " q.effectiveOffset) ++
            []))))))) := by
  simp [fragments, written, written_append, values_whereClause, values_orderClause,
    values_rowCountClause]

theorem written_insert (q : Query) (record : Record) : written 0 (q.fragments (.insert record)) =
    "INSERT INTO ".toList ++ (q.table.toList ++ (" (".toList ++
      (written 0 (separate ", " (record.columns.map fun column => [.text column])) ++
        (") VALUES (".toList ++ (written 0 (bindList record.values) ++
          ") RETURNING *".toList))))) := by
  simp [fragments, written, written_append, values_columns, returning]

theorem written_update (q : Query) (record : Record) : written 0 (q.fragments (.update record)) =
    "UPDATE ".toList ++ (q.table.toList ++ (" SET ".toList ++
      (written 0 (separate ", " (record.fields.map assignment)) ++
        (written record.fields.length q.whereClause ++ " RETURNING *".toList)))) := by
  simp [fragments, written, written_append, values_assignments, returning]

theorem written_delete (q : Query) : written 0 (q.fragments .delete) =
    "DELETE FROM ".toList ++ (q.table.toList ++
      (written 0 q.whereClause ++ " RETURNING *".toList)) := by
  simp [fragments, written, written_append, returning]

theorem alike_of_written_select (hq : q.Accepted .select) (hr : r.Accepted .select)
    (h : written 0 (q.fragments .select) = written 0 (r.fragments .select)) :
    Alike (fun _ _ => True) q r .select .select := by
  have hq' : q.Selectable := hq.allows
  have hr' : r.Selectable := hr.allows
  rw [written_select, written_select] at h
  obtain ⟨hprojection, h⟩ := Projection.append_from_cancel hq'.projection hr'.projection
    (List.append_cancel_left h)
  have hbehind := fun (q : Query) bound =>
    follows_order q bound (follows_limits q.effectiveLimit q.effectiveOffset bound)
  obtain ⟨htable, h⟩ := name_cancel hq.table hr.table
    ((follows_where q 0 (hbehind q _)).stops (by decide))
    ((follows_where r 0 (hbehind r _)).stops (by decide)) h
  obtain ⟨hfilters, h⟩ := readable_where hq.columns hr.columns (hbehind q _) (hbehind r _) h
  rw [show q.filterValues.length = r.filterValues.length from
    (Filter.flatMap_values_of_alike hfilters).length_eq] at h
  obtain ⟨horder, h⟩ := readable_order hq'.order hr'.order (follows_limits _ _ _)
    (follows_limits _ _ _) h
  have hlimit : Readable (rowCountClause " LIMIT ") [" OFFSET "] _ _ :=
    readable_rowCount (by decide) (by decide)
  have hoffset : Readable (rowCountClause " OFFSET ") [] _ _ :=
    readable_rowCount (by decide) (by decide)
  have hlast : ∀ bound m, Follows [" OFFSET "]
      (written bound (rowCountClause " OFFSET " m) ++ []) := by
    intro bound m
    rw [rowCountClause_eq]
    exact follows_clause _ _ _ _ (.nil [])
  obtain ⟨hlimits, h⟩ := hlimit trivial trivial (hlast _ _) (hlast _ _) h
  obtain ⟨hoffsets, -⟩ := hoffset trivial trivial (.nil []) (.nil []) h
  exact .select htable hprojection hfilters horder hlimits hoffsets

theorem alike_of_written_delete (hq : q.Accepted .delete) (hr : r.Accepted .delete)
    (h : written 0 (q.fragments .delete) = written 0 (r.fragments .delete)) :
    Alike (fun _ _ => True) q r .delete .delete := by
  rw [written_delete, written_delete] at h
  obtain ⟨htable, h⟩ := name_cancel hq.table hr.table
    ((follows_where q 0 follows_returning).stops (by decide))
    ((follows_where r 0 follows_returning).stops (by decide)) (List.append_cancel_left h)
  obtain ⟨hfilters, -⟩ := readable_where hq.columns hr.columns follows_returning
    follows_returning h
  exact .delete htable hfilters

theorem alike_of_written_update {record other : Record} (hq : q.Accepted (.update record))
    (hr : r.Accepted (.update other))
    (h : written 0 (q.fragments (.update record)) = written 0 (r.fragments (.update other))) :
    Alike (fun _ _ => True) q r (.update record) (.update other) := by
  have hrecord : Writable record := hq.allows
  have hother : Writable other := hr.allows
  have hset : ∀ z, Stops Identifier.isNameChar (" SET ".toList ++ z) := fun z => .cons rfl _
  rw [written_update, written_update] at h
  obtain ⟨htable, h⟩ := name_cancel hq.table hr.table (hset _) (hset _)
    (List.append_cancel_left h)
  have hassignments : Readable
      (fun fields : List (String × Value) => separate ", " (fields.map assignment)) afterTable
      _ _ := readable_assignment.separate (by decide) fun _ _ _ => rfl
  obtain ⟨hfields, h⟩ := hassignments hrecord.fields_ok hother.fields_ok
    (follows_where q _ follows_returning) (follows_where r _ follows_returning)
    (List.append_cancel_left h)
  rw [hfields.length_eq] at h
  obtain ⟨hfilters, -⟩ := readable_where hq.columns hr.columns follows_returning
    follows_returning h
  exact .update htable (hfields.imp fun _ _ h => ⟨h, trivial⟩) hfilters

theorem alike_of_written_insert {record other : Record} (hq : q.Accepted (.insert record))
    (hr : r.Accepted (.insert other))
    (h : written 0 (q.fragments (.insert record)) = written 0 (r.fragments (.insert other))) :
    Alike (fun _ _ => True) q r (.insert record) (.insert other) := by
  have hrecord : Writable record := hq.allows
  have hother : Writable other := hr.allows
  have hopen : ∀ z, Stops Identifier.isNameChar (" (".toList ++ z) := fun z => .cons rfl _
  have hvalues : ∀ z, Follows [") VALUES ("] (") VALUES (".toList ++ z) :=
    Follows.of_mem List.mem_cons_self
  rw [written_insert, written_insert] at h
  obtain ⟨htable, h⟩ := name_cancel hq.table hr.table (hopen _) (hopen _)
    (List.append_cancel_left h)
  have hcolumns : Readable (fun columns : List String => separate ", "
      (columns.map fun column => [.text column])) [") VALUES ("] _ _ :=
    (readable_name (by decide)).separate (by decide) fun _ _ _ => rfl
  obtain ⟨hnames, -⟩ := hcolumns hrecord.columns_ok hother.columns_ok (hvalues _) (hvalues _)
    (List.append_cancel_left h)
  refine .insert htable ?_
  rw [Record.columns, Record.columns, Assoc.names, Assoc.names, List.forall₂_map_left_iff,
    List.forall₂_map_right_iff] at hnames
  exact hnames.imp fun _ _ h => ⟨h, trivial⟩

theorem head?_written_fragments (q : Query) (operation : Operation) :
    (written 0 (q.fragments operation)).head? = operation.command.word.toList.head? := by
  cases operation with
  | select => simp [written_select, Operation.command, Command.word]
  | insert record => simp [written_insert, Operation.command, Command.word]
  | update record => simp [written_update, Operation.command, Command.word]
  | delete => simp [written_delete, Operation.command, Command.word]

theorem command_eq_of_head? {c d : Command}
    (h : c.word.toList.head? = d.word.toList.head?) : c = d := by
  revert h
  cases c <;> cases d <;> decide

/-- Equal texts come from queries and operations that differ in bound values only. -/
theorem alike_of_written {operation other : Operation} (hq : q.Accepted operation)
    (hr : r.Accepted other)
    (h : written 0 (q.fragments operation) = written 0 (r.fragments other)) :
    Alike (fun _ _ => True) q r operation other := by
  have hcommand : operation.command = other.command := by
    apply command_eq_of_head?
    rw [← head?_written_fragments q, ← head?_written_fragments r, h]
  cases operation <;> cases other <;> try cases hcommand
  case select => exact alike_of_written_select hq hr h
  case insert => exact alike_of_written_insert hq hr h
  case update => exact alike_of_written_update hq hr h
  case delete => exact alike_of_written_delete hq hr h

end Reading

/-- A statement and its parameters tell the query and the operation: their kind, and of each kind
all that it uses, up to the sense in which the parameters are the same. Nothing is asked of the
names, which may be words of the language. -/
theorem alike_of_sql_eq {same : Value → Value → Prop} {q r : Query} {operation other : Operation}
    {s t : Statement} (hq : q.compile operation = .ok s) (hr : r.compile other = .ok t)
    (hsql : s.sql = t.sql) (hparams : List.Forall₂ same s.params t.params) :
    operation.command = other.command ∧ Alike same q r operation other := by
  obtain ⟨hqa, rfl⟩ := compile_eq_ok_iff.mp hq
  obtain ⟨hra, rfl⟩ := compile_eq_ok_iff.mp hr
  have htext := congrArg String.toList hsql
  rw [Statement.toList_sql, Statement.toList_sql] at htext
  rw [Statement.params_eq, Statement.params_eq, values_fragments, values_fragments] at hparams
  have halike := (alike_of_written hqa hra htext).of_boundValues hparams
  exact ⟨command_eq_of_alike halike, halike⟩

/-- A table and columns with the names of keywords, and conditions that are never met. -/
theorem alike_of_words :
    let q := (((ofTable "FROM").select "WHERE AS FROM").addFilter (.among "AND" [])).addFilter
      (.compare "FALSE" .equal (.text "ORDER"))
    let r := (((ofTable "FROM").select "WHERE AS FROM").addFilter (.among "FALSE" [])).addFilter
      (.compare "FALSE" .equal (.text "ORDER"))
    ∃ s t, q.compile .select = .ok s ∧ r.compile .select = .ok t ∧ s.sql = t.sql ∧
      s.params = t.params ∧ Alike Eq q r .select .select :=
  ⟨_, _, rfl, rfl, rfl, rfl, (alike_of_sql_eq rfl rfl rfl (.cons rfl .nil)).2⟩

end SqlGateway.Query
