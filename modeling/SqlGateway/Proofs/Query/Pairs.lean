import SqlGateway.Proofs.Query.Record

/-! The record of a list of pairs. However the pairs are put, one by one or all at once, each name
has the place of the first pair that names it and the value of the last one, and an insertion of the
record binds just those values. -/
namespace SqlGateway.Record

variable {column : String} {pairs more : List (String × Value)}

theorem foldl_insert (pairs : List (String × Value)) (r : Record) :
    pairs.foldl (fun r pair => r.insert pair.1 pair.2) r = r.insertAll pairs := by
  induction pairs generalizing r with
  | nil => rfl
  | cons pair pairs ih => exact ih (r.insert pair.1 pair.2)

theorem insertAll_ofPairs : (ofPairs pairs).insertAll more = ofPairs (pairs ++ more) :=
  congrArg mk (Assoc.putAll_append more).symm

theorem columns_ofPairs : (ofPairs pairs).columns = (pairs.map Prod.fst).eraseDups :=
  Assoc.names_ofPairs pairs

theorem get?_ofPairs : (ofPairs pairs).get? column = Assoc.last? column pairs := Assoc.get?_ofPairs

theorem size_eq_length_columns (r : Record) : r.size = r.columns.length :=
  (List.length_map _).symm

theorem size_ofPairs : (ofPairs pairs).size = (pairs.map Prod.fst).toFinset.card := by
  have hcolumns : (ofPairs pairs).columns.toFinset = (pairs.map Prod.fst).toFinset := by
    ext name
    rw [columns_ofPairs, List.mem_toFinset, List.mem_toFinset, List.mem_eraseDups]
  rw [size_eq_length_columns, ← List.toFinset_card_of_nodup (nodup_columns_ofPairs pairs), hcolumns]

/-- A record that is built of pairs, by putting them one after the other or all at once, has the
names of the pairs in the order in which they first came, and for each name the value of its last
pair. More pairs on top of it come to the same as all of them from the start, and an insertion lists
the names and binds the values in this order. -/
theorem last_value_at_first_place (pairs more : List (String × Value)) :
    let r := ofPairs pairs
    let names := (pairs.map Prod.fst).eraseDups
    pairs.foldl (fun r pair => r.insert pair.1 pair.2) empty = r ∧
      r.columns = names ∧
      (∀ column, r.get? column = Assoc.last? column pairs) ∧
      r.size = (pairs.map Prod.fst).toFinset.card ∧
      more.foldl (fun r pair => r.insert pair.1 pair.2) r = ofPairs (pairs ++ more) ∧
      ∀ (q : Query) (s : Statement), q.compile (.insert r) = .ok s →
        s.sql = "INSERT INTO " ++ q.table ++ " (" ++ ", ".intercalate names ++ ") VALUES (" ++
          ", ".intercalate (names.mapIdx fun k _ => "$" ++ toString (k + 1)) ++
          ") RETURNING *" ∧
        s.params.map some = names.map (Assoc.last? · pairs) := by
  intro r names
  have hcolumns : r.columns = names := columns_ofPairs
  have hget : r.get? = (Assoc.last? · pairs) := funext fun _ => get?_ofPairs
  refine ⟨foldl_insert pairs empty, hcolumns, congrFun hget, size_ofPairs, ?_, ?_⟩
  · rw [foldl_insert]
    exact insertAll_ofPairs
  · intro q s hs
    have hvalues : s.params = r.values := Query.params_of_compile hs
    refine ⟨?_, ?_⟩
    · rw [Query.sql_insert hs, hcolumns]
    · rw [hvalues, ← map_get?_columns (nodup_columns_ofPairs pairs), hcolumns, hget]

theorem last_value_of_a_repeated_column :
    let pairs := [("state", .text "new"), ("owner", .null), ("state", .text "done")]
    ∃ s, (Query.ofTable "tasks").compile (.insert (ofPairs pairs)) = .ok s ∧
      s.sql = "INSERT INTO tasks (state, owner) VALUES ($1, $2) RETURNING *" ∧
      s.params.map some = [some (.text "done"), some .null] := by
  intro pairs
  obtain ⟨-, -, -, -, -, hinsert⟩ := last_value_at_first_place pairs []
  obtain ⟨hsql, hparams⟩ := hinsert (Query.ofTable "tasks") _ rfl
  refine ⟨_, rfl, ?_, hparams⟩
  rw [hsql]
  decide

end SqlGateway.Record
