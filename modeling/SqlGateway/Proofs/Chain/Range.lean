import SqlGateway.Proofs.Chain.Calls
import SqlGateway.Proofs.Query.Paging

/-! The rows of a range. A range is told by its first and last position; what is sent are a number
of rows to skip and a number of rows to take, and these two give back the rows of the range. -/
namespace SqlGateway

/-- The text tells in one place how many rows are taken, and in at most one how many are skipped;
where it tells none, none are skipped. -/
structure Statement.Pages (s : Statement) (taken skipped : Nat) : Prop where
  limit : Text.numbersAfter "LIMIT" s.sql = [taken]
  offset : Text.numbersAfter "OFFSET" s.sql = [skipped] ∨
    Text.numbersAfter "OFFSET" s.sql = [] ∧ skipped = 0

/-- The rows at the positions from `first` to `last`, both included, as far as there are rows. -/
def rowsAt {Row : Type} (first last : Nat) (rows : List Row) : List Row :=
  (List.range' first (last + 1 - first)).filterMap (rows[·]?)

theorem take_drop_eq_filterMap {Row : Type} (rows : List Row) (first count : Nat) :
    (rows.drop first).take count = (List.range' first count).filterMap (rows[·]?) := by
  induction count generalizing first with
  | zero => rfl
  | succ count ih =>
      rw [List.range'_succ, List.filterMap_cons, ← ih]
      cases hrow : rows[first]? with
      | none =>
          have hend : rows.length ≤ first := List.getElem?_eq_none_iff.mp hrow
          rw [List.drop_of_length_le hend, List.drop_of_length_le (Nat.le_succ_of_le hend),
            List.take_nil, List.take_nil]
      | some row =>
          rw [List.drop_eq_getElem?_toList_append, hrow, Option.toList_some,
            List.singleton_append, List.take_succ_cons]

namespace Query

/-- A query that may select if its numbers of rows can be counted. -/
structure Selecting (q : Query) : Prop where
  noError : q.deferred = none
  table : Identifier.accepts q.table = true
  columns : ∀ f ∈ q.filters, Identifier.accepts f.column = true
  projection : Projection.accepts q.projection = true
  order : ∀ entry ∈ q.order, Identifier.accepts entry.1 = true
  count : q.filterValues.length ≤ maxParameters

variable {q : Query} {count start : UInt64}

theorem effectiveLimit_of_window (hwindow : q.window = ⟨some count, some start⟩) :
    q.effectiveLimit = some (if q.singleRow then 1 else count) := by
  rw [effectiveLimit, hwindow]
  split <;> rfl

theorem effectiveOffset_of_window (hwindow : q.window = ⟨some count, some start⟩) :
    q.effectiveOffset = if start = 0 then none else some start := by
  rw [effectiveOffset, hwindow, Option.filter_some]
  have hpos : decide (0 < start) = true ↔ start ≠ 0 := by
    rw [decide_eq_true_eq, UInt64.pos_iff_ne_zero]
  by_cases h : start = 0
  · rw [if_neg (mt hpos.mp (not_not.mpr h)), if_pos h]
  · rw [if_pos (hpos.mpr h), if_neg h]

theorem Selecting.accepted_iff (h : q.Selecting) (hwindow : q.window = ⟨some count, some start⟩) :
    q.Accepted .select ↔ start.toNat ≤ 0x7fffffffffffffff ∧
      (q.singleRow = true ∨ count.toNat ≤ 0x7fffffffffffffff) := by
  have hlimit : (∀ n ∈ q.effectiveLimit, n.toNat < 0x8000000000000000) ↔
      q.singleRow = true ∨ count.toNat ≤ 0x7fffffffffffffff := by
    rw [effectiveLimit_of_window hwindow]
    by_cases hsingle : q.singleRow = true
    · simp [hsingle]
    · simp [hsingle, Nat.lt_succ_iff]
  have hoffset : (∀ n ∈ q.effectiveOffset, n.toNat < 0x8000000000000000) ↔
      start.toNat ≤ 0x7fffffffffffffff := by
    rw [effectiveOffset_of_window hwindow]
    by_cases hstart : start = 0
    · simp [hstart]
    · simp [hstart, Nat.lt_succ_iff]
  rw [← hlimit, ← hoffset]
  constructor
  · intro haccepted
    have hselect : q.Selectable := haccepted.allows
    exact ⟨hselect.offset, hselect.limit⟩
  · rintro ⟨hstart, hcount⟩
    exact ⟨h.noError, h.table, h.columns, ⟨h.projection, h.order, hcount, hstart⟩, h.count⟩

theorem pages_of_window {s : Statement} (h : q.compile .select = .ok s)
    (hwindow : q.window = ⟨some count, some start⟩) :
    s.Pages (if q.singleRow then 1 else count.toNat) start.toNat := by
  obtain ⟨hlimit, hoffset⟩ := numbersAfter_of_select h
  rw [effectiveLimit_of_window hwindow] at hlimit
  rw [effectiveOffset_of_window hwindow] at hoffset
  constructor
  · rw [hlimit]
    split
    · rfl
    · rfl
  · by_cases hstart : start = 0
    · rw [if_pos hstart] at hoffset
      exact .inr ⟨hoffset, congrArg UInt64.toNat hstart⟩
    · rw [if_neg hstart] at hoffset
      exact .inl hoffset

end Query

namespace Chain

/-- A call that sets the window, or would set it. -/
def Call.isPaging : Call → Bool
  | .limit _ => true
  | .range _ _ => true
  | _ => false

theorem filterMap_window_eq (list : List Call) :
    list.filterMap Call.window? = (list.filter Call.isPaging).filterMap Call.window? := by
  rw [List.filterMap_filter]
  apply List.filterMap_congr
  intro call _
  cases call <;> rfl

variable {table : String} {list : List Call} {start last : UInt64}

theorem error?_of_deferred (h : ((ofTable table).calls list).query.deferred = none) :
    ∀ call ∈ list, call.error? = none := by
  have hplan : ((ofTable table).calls list).query.deferred =
      (list.filterMap Call.error?).head? := congrArg Plan.deferred (plan_calls_ofTable table list)
  rw [hplan, List.head?_eq_none_iff] at h
  exact List.filterMap_eq_nil_iff.mp h

theorem mem_of_last_range (hlast : (list.filter Call.isPaging).getLast? = some (.range start last)) :
    .range start last ∈ list := List.mem_of_mem_filter (List.mem_of_getLast? hlast)

/-- Without an error the last range was one that can be counted. -/
theorem countable_of_last_range (h : ((ofTable table).calls list).query.deferred = none)
    (hlast : (list.filter Call.isPaging).getLast? = some (.range start last)) :
    Window.Countable start last := by
  have herror := error?_of_deferred h _ (mem_of_last_range hlast)
  by_contra hnot
  simp [hnot] at herror

theorem window_of_last_range (h : ((ofTable table).calls list).query.deferred = none)
    (hlast : (list.filter Call.isPaging).getLast? = some (.range start last)) :
    ((ofTable table).calls list).query.window =
      ⟨some (UInt64.ofNat (last.toNat - start.toNat + 1)), some start⟩ := by
  have hplan : ((ofTable table).calls list).query.window =
      (list.filterMap Call.window?).getLast?.getD ⟨none, none⟩ :=
    congrArg Plan.window (plan_calls_ofTable table list)
  have hcountable := countable_of_last_range h hlast
  obtain ⟨init, hpaging⟩ := List.getLast?_eq_some_iff.mp hlast
  rw [hplan, filterMap_window_eq, hpaging]
  simp [hcountable]

theorem singleRow_calls : ((ofTable table).calls list).query.singleRow =
    list.any Call.isSingle := congrArg Plan.singleRow (plan_calls_ofTable table list)

theorem compile_calls_eq (h : ((ofTable table).calls list).operation = .select) :
    ((ofTable table).calls list).compile.1 =
      ((ofTable table).calls list).query.compile .select := by
  have hplan : ((ofTable table).calls list).plan.operation = .select := h
  rw [compile_of_memo_eq_none (memo_calls_ofTable table list), hplan]
  -- a query and the one of its plan differ in the number of calls only
  rfl

/-- What a range does to the window, and which error it leaves. -/
theorem query_range {c : Chain} (h : c.query.deferred = none) (start last : UInt64) :
    let after := (c.call (.range start last)).query
    if last.toNat < start.toNat ∨ last.toNat - start.toNat = 0xffffffffffffffff then
      after.window = c.query.window ∧ after.deferred = some (.invalidRange start last)
    else
      after.deferred = none ∧ ∃ count : UInt64, after.window = ⟨some count, some start⟩ ∧
        count.toNat = last.toNat - start.toNat + 1 := by
  intro after
  have hlast := last.toNat_lt_size
  rw [UInt64.size] at hlast
  by_cases hcountable : Window.Countable start last
  · have hlt := hcountable.2
    have hle := hcountable.1
    rw [UInt64.size] at hlt
    have hafter : after = c.query.setWindow
        ⟨some (UInt64.ofNat (last.toNat - start.toNat + 1)), some start⟩ := by
      change c.query.range start last = _
      rw [Query.range, Window.ofRange?_of_countable hcountable]
    rw [if_neg (by omega), hafter]
    exact ⟨h, _, rfl, UInt64.toNat_ofNat_of_lt hlt⟩
  · have hafter : after = c.query.defer (.invalidRange start last) := by
      change c.query.range start last = _
      rw [Query.range, Window.ofRange?_of_not_countable hcountable]
    rw [Window.Countable, UInt64.size] at hcountable
    rw [if_pos (by omega), hafter]
    refine ⟨rfl, ?_⟩
    change c.query.deferred.or _ = _
    rw [h]
    rfl

/-- What is left of the rows for a range, and for a single row of it. -/
theorem take_drop_range {Row : Type} (rows : List Row) {first last : Nat} (h : first ≤ last) :
    (rows.drop first).take (last - first + 1) = rowsAt first last rows ∧
      (rows.drop first).take 1 = rows[first]?.toList := by
  constructor
  · rw [rowsAt, take_drop_eq_filterMap, Nat.sub_add_comm h]
  · rw [take_drop_eq_filterMap, List.range'_one]
    cases hrow : rows[first]? with
    | none => simp [hrow]
    | some row => simp [hrow]

/-- The rows at the positions from `start` to `last` are asked for by their number and the number
of rows in front of them. A range without rows, or with more of them than 64 bits can count, leaves
an error and no trace in the window; of the others a selection is made where both numbers are
signed 64-bit numbers, and to skip and to take rows as its text tells leaves the rows of the range,
or the first of them for a single row. -/
theorem range_gives_its_rows (start last : UInt64) :
    (∀ c : Chain, c.query.deferred = none →
      let after := (c.call (.range start last)).query
      if last.toNat < start.toNat ∨ last.toNat - start.toNat = 0xffffffffffffffff then
        after.window = c.query.window ∧ after.deferred = some (.invalidRange start last)
      else
        after.deferred = none ∧ ∃ count : UInt64, after.window = ⟨some count, some start⟩ ∧
          count.toNat = last.toNat - start.toNat + 1) ∧
    ∀ (table : String) (list : List Call),
      let c := (ofTable table).calls list
      c.operation = .select → c.query.Selecting →
      (list.filter Call.isPaging).getLast? = some (.range start last) →
      ((∃ s, c.compile.1 = .ok s) ↔ start.toNat ≤ 0x7fffffffffffffff ∧
        (list.any Call.isSingle = true ∨ last.toNat - start.toNat + 1 ≤ 0x7fffffffffffffff)) ∧
      ∀ s, c.compile.1 = .ok s → ∃ taken skipped, s.Pages taken skipped ∧
        ∀ (Row : Type) (rows : List Row), (rows.drop skipped).take taken =
          if list.any Call.isSingle then rows[start.toNat]?.toList
          else rowsAt start.toNat last.toNat rows := by
  refine ⟨fun c hdeferred => query_range hdeferred start last, ?_⟩
  intro table list c hoperation hselecting hlast
  have hcountable := countable_of_last_range hselecting.noError hlast
  have hwindow := window_of_last_range hselecting.noError hlast
  have hcount : (UInt64.ofNat (last.toNat - start.toNat + 1)).toNat =
      last.toNat - start.toNat + 1 := UInt64.toNat_ofNat_of_lt hcountable.2
  have hsingle : c.query.singleRow = list.any Call.isSingle := singleRow_calls
  constructor
  · rw [compile_calls_eq hoperation, Query.exists_compile_iff, hselecting.accepted_iff hwindow,
      hsingle, hcount]
  · intro s hs
    rw [compile_calls_eq hoperation] at hs
    refine ⟨_, _, Query.pages_of_window hs hwindow, fun Row rows => ?_⟩
    obtain ⟨hrange, hfirst⟩ := take_drop_range rows hcountable.1
    rw [hsingle, hcount]
    split
    · exact hfirst
    · exact hrange

/-- Ten rows, in a chain that names columns and aliases as the clauses are named. -/
theorem range_of_ten_rows :
    let list : List Call := [.select "limit AS offset, t.*", .among "LIMIT" [.integer 1],
      .limit 3, .range 20 29, .orderBy "OFFSET" .descending]
    let c := (ofTable "tasks").calls list
    (ofTable "tasks").query.deferred = none ∧
      ((ofTable "tasks").call (.range 20 29)).query.deferred = none ∧
      c.operation = .select ∧ c.query.Selecting ∧
      (list.filter Call.isPaging).getLast? = some (.range 20 29) ∧
      (∃ s, c.compile.1 = .ok s) ∧
      ∀ s, c.compile.1 = .ok s → ∃ taken skipped, s.Pages taken skipped ∧
        ∀ (Row : Type) (rows : List Row),
          (rows.drop skipped).take taken = rowsAt 20 29 rows := by
  intro list c
  have hselecting : c.query.Selecting :=
    { noError := rfl, table := by decide, columns := by decide, projection := by decide,
      order := by decide, count := by decide }
  obtain ⟨hrange, hselect⟩ := range_gives_its_rows 20 29
  obtain ⟨haccepted, hrows⟩ := hselect "tasks" list rfl hselecting rfl
  exact ⟨rfl, (hrange (ofTable "tasks") rfl).1, rfl, hselecting, rfl,
    haccepted.mpr ⟨by decide, .inr (by decide)⟩, hrows⟩

end Chain

end SqlGateway
