import Mathlib
import SqlGateway.Proofs.Assoc
import SqlGateway.Proofs.Json.Decoder
import SqlGateway.Proofs.Query.Clauses

/-! Records as maps. Everything that builds a record or adds to one keeps its columns distinct, so a
written record names each column once, and the value bound for a column is the value that the record
has for it. A stored record is taken as it is: its columns are distinct exactly where its text names
no column twice. -/
namespace SqlGateway

open Json (Decoder Document)

namespace Record

theorem nodup_columns_insert {r : Record} {column : String} {v : Value} :
    (r.insert column v).columns.Nodup ↔ r.columns.Nodup := Assoc.nodup_names_put

theorem nodup_columns_ofPairs (pairs : List (String × Value)) : (ofPairs pairs).columns.Nodup :=
  Assoc.nodup_names_ofPairs pairs

theorem nodup_columns_ofJson {j : Json} {r : Record} (h : ofJson j = .ok r) : r.columns.Nodup := by
  cases j with
  | obj members =>
      cases h
      exact nodup_columns_ofPairs _
  | _ => cases h

/-! ### Stored records -/

/-- The column that a stored field names. -/
def storedColumn? : Document → Option String
  | .array (.string name :: _) => name
  | _ => none

/-- The columns that a stored record names, in its order and as often as it names them. -/
def storedColumns (d : Document) : List String :=
  match Decoder.onlyField? "fields" d with
  | some (.array fields) => fields.filterMap storedColumn?
  | _ => []

theorem filterMap_storedColumn? {room : Nat} {items : List Document}
    {fields : List (String × Value)}
    (h : items.mapM (Decoder.pair Decoder.string Value.decode room) = some fields) :
    items.filterMap storedColumn? = fields.map Prod.fst := by
  induction items generalizing fields with
  | nil =>
      cases h
      rfl
  | cons item items ih =>
      rw [List.mapM_cons] at h
      obtain ⟨⟨column, v⟩, hfirst, h⟩ := Option.bind_eq_some_iff.mp h
      obtain ⟨rest, hrest, h⟩ := Option.bind_eq_some_iff.mp h
      cases h
      obtain ⟨_, x, y, rfl, hcolumn, -⟩ := Decoder.pair_eq_some hfirst
      obtain rfl := Decoder.string_eq_some_iff.mp hcolumn
      have hnamed : storedColumn? (.array [.string (some column), y]) = some column := rfl
      rw [List.filterMap_cons_some hnamed, ih hrest, List.map_cons]

/-- A stored record has the columns that its text names. -/
theorem columns_decode {room : Nat} {d : Document} {r : Record} (h : decode room d = some r) :
    r.columns = storedColumns d := by
  cases room with
  | zero => cases h
  | succ room =>
      obtain ⟨slots, hslots, hbuild⟩ := Option.bind_eq_some_iff.mp h
      obtain ⟨slot, rfl, hgiven⟩ := Decoder.slots?_singleton hslots
      obtain ⟨fields, hfields, rfl⟩ := Option.map_eq_some_iff.mp hbuild
      obtain ⟨content, hslot, hlist⟩ := Decoder.required_eq_some hfields
      obtain ⟨_, items, rfl, hitems⟩ := Decoder.list_eq_some hlist
      rw [storedColumns, hgiven _ hslot]
      exact (filterMap_storedColumn? hitems).symm

/-- The records that can be built: from nothing, from pairs, from JSON or from a text, and step by
step from there. The list holds the columns that the text names, if the record began with one. -/
inductive Built : List String → Record → Prop
  | empty : Built [] .empty
  | ofPairs (pairs : List (String × Value)) : Built [] (.ofPairs pairs)
  | ofJson {j : Json} {r : Record} : Record.ofJson j = .ok r → Built [] r
  | stored {text : String} {d : Document} {r : Record} : Document.ofText? text = some d →
      Decoder.run decode d = some r → Built (storedColumns d) r
  | insert {names : List String} {r : Record} (column : String) (v : Value) :
      Built names r → Built names (r.insert column v)

theorem Built.nodup_columns_iff {names : List String} {r : Record} (h : Built names r) :
    r.columns.Nodup ↔ names.Nodup := by
  induction h with
  | empty => rfl
  | ofPairs pairs => simp only [nodup_columns_ofPairs, List.nodup_nil]
  | ofJson hjson => simp only [nodup_columns_ofJson hjson, List.nodup_nil]
  | stored _ hread => rw [columns_decode hread]
  | insert column v _ ih => exact nodup_columns_insert.trans ih

/-- With distinct columns the record has for each column the value at its place. -/
theorem map_get?_columns {r : Record} (h : r.columns.Nodup) :
    r.columns.map r.get? = r.values.map some := by
  have hget := Assoc.map_get?_names h
  rw [values, List.map_map]
  exact hget

end Record

namespace Query

open Fragment

/-- The text of a list with separators is put together from the texts of its parts, each numbered
on from the values of the parts before. -/
theorem written_separate {α : Type} (part : α → List Fragment) (text : Nat → α → String)
    (count : Nat) (separator : String)
    (htext : ∀ bound a, written bound (part a) = (text bound a).toList)
    (hcount : ∀ a, (values (part a)).length = count) (bound : Nat) (as : List α) :
    written bound (separate separator (as.map part)) =
      (separator.intercalate (as.mapIdx fun i a => text (bound + i * count) a)).toList := by
  rw [String.toList_intercalate]
  induction as generalizing bound with
  | nil => rfl
  | cons a as ih =>
      cases as with
      | nil => simp [htext]
      | cons next as =>
          -- The rest is numbered on from the values of the first part.
          have hshift : ∀ i, bound + (i + 1) * count = bound + count + i * count := by
            intro i
            rw [Nat.add_one_mul, Nat.add_comm (i * count), Nat.add_assoc]
          have hrest := ih (bound + count)
          simp only [List.map_cons, List.mapIdx_cons] at hrest
          simp only [List.map_cons, separate_cons_cons, written_append, written, htext, hcount,
            hrest, List.mapIdx_cons, List.intercalate_cons_cons, List.append_assoc, hshift,
            Nat.zero_mul, Nat.add_zero]

theorem written_columnList (bound : Nat) (columns : List String) :
    written bound (separate ", " (columns.map fun column => [.text column])) =
      (", ".intercalate columns).toList := by
  have htext := written_separate (fun column => [.text column]) (fun _ column => column) 0 ", "
    (by simp [written]) (by simp) bound columns
  rw [htext, List.mapIdx_eq_zipIdx_map]
  simp

theorem written_bindList (bound : Nat) (vs : List Value) :
    written bound (bindList vs) =
      (", ".intercalate (vs.mapIdx fun k _ => "$" ++ toString (bound + k + 1))).toList := by
  have htext := written_separate (fun v : Value => [.bind v])
    (fun bound _ => "$" ++ toString (bound + 1)) 1 ", "
    (by simp [written]) (by simp) bound vs
  rw [bindList]
  simpa only [Nat.mul_one] using htext

theorem written_assignments (bound : Nat) (fields : List (String × Value)) :
    written bound (separate ", " (fields.map assignment)) =
      (", ".intercalate (fields.mapIdx fun k field =>
        field.1 ++ " = $" ++ toString (bound + k + 1))).toList := by
  have htext := written_separate assignment
    (fun bound field => field.1 ++ " = $" ++ toString (bound + 1)) 1 ", "
    (by simp [written, assignment]) (by simp [assignment]) bound fields
  simpa only [Nat.mul_one] using htext

theorem mapIdx_map {α β γ : Type} (number : Nat → β → γ) (f : α → β) (as : List α) :
    (as.map f).mapIdx number = as.mapIdx fun k a => number k (f a) := by
  apply List.ext_getElem?
  intro k
  rw [List.getElem?_mapIdx, List.getElem?_mapIdx, List.getElem?_map, Option.map_map]
  rfl

/-- An insertion lists the columns of the record and as many placeholders. -/
theorem sql_insert {q : Query} {r : Record} {s : Statement} (h : q.compile (.insert r) = .ok s) :
    s.sql = "INSERT INTO " ++ q.table ++ " (" ++ ", ".intercalate r.columns ++ ") VALUES (" ++
      ", ".intercalate (r.columns.mapIdx fun k _ => "$" ++ toString (k + 1)) ++
      ") RETURNING *" := by
  obtain ⟨-, rfl⟩ := compile_eq_ok_iff.mp h
  have hplaces : r.values.mapIdx (fun k _ => "$" ++ toString (k + 1)) =
      r.columns.mapIdx fun k _ => "$" ++ toString (k + 1) := by
    rw [Record.values, Record.columns, Assoc.names, mapIdx_map, mapIdx_map]
  apply String.toList_inj.mp
  simp only [Statement.toList_sql, fragments, written_append, written, written_columnList,
    written_bindList, values_text, values_nil, values_columns, List.length_nil, Nat.zero_add,
    hplaces, returning, String.toList_append, List.append_assoc, List.append_nil]
  rfl

/-- An update assigns to each column of the record the placeholder with its number, and the
conditions are numbered on from there. -/
theorem sql_update {q : Query} {r : Record} {s : Statement} (h : q.compile (.update r) = .ok s) :
    s.sql = "UPDATE " ++ q.table ++ " SET " ++
      ", ".intercalate (r.columns.mapIdx fun k column => column ++ " = $" ++ toString (k + 1)) ++
      String.ofList (written r.size (q.whereClause ++ [returning])) := by
  obtain ⟨-, rfl⟩ := compile_eq_ok_iff.mp h
  have hassigned : (r.columns.mapIdx fun k column => column ++ " = $" ++ toString (k + 1)) =
      r.fields.mapIdx fun k field => field.1 ++ " = $" ++ toString (k + 1) := by
    rw [Record.columns, Assoc.names, mapIdx_map]
  apply String.toList_inj.mp
  simp only [Statement.toList_sql, fragments, written_append, written, written_assignments,
    values_text, values_nil, values_assignments, List.length_nil, Nat.zero_add, hassigned,
    Record.size, String.toList_append, String.toList_ofList, List.append_assoc, List.nil_append,
    List.length_map]

end Query

namespace Record

theorem get?_of_getElem? {r : Record} (h : r.columns.Nodup) {k : Nat} {column : String}
    (hk : r.columns[k]? = some column) :
    ∃ v, r.get? column = some v ∧ r.values[k]? = some v := by
  have hmap := congrArg (·[k]?) (map_get?_columns h)
  simp only [List.getElem?_map, hk, Option.map_some] at hmap
  obtain ⟨v, hv, hsome⟩ := Option.map_eq_some_iff.mp hmap.symm
  exact ⟨v, hsome.symm, hv⟩

/-- A record names each of its columns once, unless it began with a text that names one twice. Then
the insertion and the update compiled from it name each column once too, and the value bound for a
column is the one that the record has for it. -/
theorem columns_written_once {names : List String} {r : Record} (h : Built names r) :
    (r.columns.Nodup ↔ names.Nodup) ∧
    (names.Nodup → ∀ (q : Query) (s : Statement), q.compile (.insert r) = .ok s →
      s.sql = "INSERT INTO " ++ q.table ++ " (" ++ ", ".intercalate r.columns ++ ") VALUES (" ++
        ", ".intercalate (r.columns.mapIdx fun k _ => "$" ++ toString (k + 1)) ++
        ") RETURNING *" ∧
      ∀ (k : Nat) (column : String), r.columns[k]? = some column →
        ∃ v : Value, r.get? column = some v ∧ s.params[k]? = some v) ∧
    (names.Nodup → ∀ (q : Query) (s : Statement), q.compile (.update r) = .ok s →
      s.sql = "UPDATE " ++ q.table ++ " SET " ++
        ", ".intercalate (r.columns.mapIdx fun k column => column ++ " = $" ++ toString (k + 1)) ++
        String.ofList (Fragment.written r.size (q.whereClause ++ [Query.returning])) ∧
      ∀ (k : Nat) (column : String), r.columns[k]? = some column →
        ∃ v : Value, r.get? column = some v ∧ s.params[k]? = some v) := by
  have hiff := h.nodup_columns_iff
  refine ⟨hiff, fun hnames q s hs => ⟨Query.sql_insert hs, ?_⟩,
    fun hnames q s hs => ⟨Query.sql_update hs, ?_⟩⟩
  · intro k column hk
    obtain ⟨v, hget, hv⟩ := get?_of_getElem? (hiff.mpr hnames) hk
    rw [Query.params_of_compile hs]
    exact ⟨v, hget, hv⟩
  · intro k column hk
    obtain ⟨v, hget, hv⟩ := get?_of_getElem? (hiff.mpr hnames) hk
    obtain ⟨hlt, -⟩ := List.getElem?_eq_some_iff.mp hv
    have hbound : q.boundValues (.update r) = r.values ++ q.filterValues := rfl
    rw [Query.params_of_compile hs, hbound, List.getElem?_append_left hlt]
    exact ⟨v, hget, hv⟩

theorem columns_of_a_stored_task :
    let id := Document.array [.string (some "id"),
      .object [(some "Integer", .number (some (.ofInt64 1)))]]
    let title := Document.array [.string (some "title"), .string (some "Null")]
    let d := Document.object [(some "fields", .array [id, title])]
    let task := (⟨[("id", .integer 1), ("title", .null)]⟩ : Record).insert "title" (.text "read")
    Document.ofText?
        "\x7b\"fields\":[[\"id\",\x7b\"Integer\":1\x7d],[\"title\",\"Null\"]]\x7d" = some d ∧
      Decoder.run decode d = some ⟨[("id", .integer 1), ("title", .null)]⟩ ∧
      (storedColumns d).Nodup ∧ task.columns.Nodup ∧
      ∃ s, (Query.ofTable "tasks").compile (.insert task) = .ok s ∧
        s.sql = "INSERT INTO tasks (id, title) VALUES ($1, $2) RETURNING *" ∧
        ∃ v, task.get? "title" = some v ∧ s.params[1]? = some v := by
  intro id title d task
  have htext : Document.ofText?
      "\x7b\"fields\":[[\"id\",\x7b\"Integer\":1\x7d],[\"title\",\"Null\"]]\x7d" = some d := by
    cbv
  have hread : Decoder.run decode d = some ⟨[("id", .integer 1), ("title", .null)]⟩ := rfl
  have hnames : (storedColumns d).Nodup := by decide
  have hbuilt : Built (storedColumns d) task := .insert "title" _ (.stored htext hread)
  obtain ⟨hiff, hinsert, -⟩ := columns_written_once hbuilt
  obtain ⟨hsql, hvalue⟩ := hinsert hnames (Query.ofTable "tasks") _ rfl
  refine ⟨htext, hread, hnames, hiff.mpr hnames, _, rfl, ?_, hvalue 1 "title" rfl⟩
  rw [hsql]
  decide

/-- A text that names a column twice gives a record with both fields: the insertion lists the
column twice, and the second value bound is not the one that the record has. -/
theorem stored_column_is_written_twice :
    let field (n : Int64) := Document.array [.string (some "a"),
      .object [(some "Integer", .number (some (.ofInt64 n)))]]
    let d := Document.object [(some "fields", .array [field 1, field 2])]
    let r : Record := ⟨[("a", .integer 1), ("a", .integer 2)]⟩
    Document.ofText? ("\x7b\"fields\":[[\"a\",\x7b\"Integer\":1\x7d]," ++
        "[\"a\",\x7b\"Integer\":2\x7d]]\x7d") = some d ∧
      Decoder.run decode d = some r ∧ ¬ r.columns.Nodup ∧ r.get? "a" = some (.integer 1) ∧
      ∃ s, (Query.ofTable "tasks").compile (.insert r) = .ok s ∧
        s.sql = "INSERT INTO tasks (a, a) VALUES ($1, $2) RETURNING *" ∧
        s.params = [.integer 1, .integer 2] := by
  refine ⟨?_, ?_, by decide, rfl, _, rfl, ?_, rfl⟩
  · cbv
  · rfl
  · decide

end Record

end SqlGateway
