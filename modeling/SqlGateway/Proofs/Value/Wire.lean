import SqlGateway.Gateway.Client
import SqlGateway.Proofs.Assoc
import SqlGateway.Proofs.Query.Clauses

/-! What becomes of JSON values on their way into a request. A JSON value is bound as a plain value
where there is one of its kind and as JSON where there is none, and is sent as it was given. The
exception is an integer past the signed 64-bit range: standing alone it is sent as a double, while
inside an array or an object, and as an unsigned host integer, it keeps all its digits. -/
namespace SqlGateway

namespace Json

/-- An integer past the signed 64-bit range. -/
def IsWide : Json → Prop
  | .num (.int n _) => 0x8000000000000000 ≤ n
  | _ => False

theorem IsWide.exists_int {j : Json} (h : j.IsWide) :
    ∃ n hn, j = .num (.int n hn) ∧ 0x8000000000000000 ≤ n := by
  cases j with
  | num number =>
      cases number with
      | int n hn => exact ⟨n, hn, rfl, h⟩
      | real x hx => exact h.elim
  | _ => exact h.elim

theorem ofInt64_ofInt {n : Int} (h : -0x8000000000000000 ≤ n ∧ n < 0x10000000000000000)
    (hn : n < 0x8000000000000000) : ofInt64 (Int64.ofInt n) = .num (.int n h) := by
  have hvalue : (Int64.ofInt n).toInt = n := Int64.toInt_ofInt_of_le h.1 hn
  simp only [ofInt64, Number.ofInt64, hvalue]

theorem Number.ofFloat?_of_isFinite {x : Float} (h : x.isFinite = true) :
    ofFloat? x = some (.real x h) := dif_pos h

end Json

namespace Value

theorem wire_ofJson {j : Json} (h : ¬ j.IsWide) : (ofJson j).wire = j := by
  cases j with
  | null => rfl
  | bool b => rfl
  | num number =>
      cases number with
      | int n hn =>
          have hsigned : n < 0x8000000000000000 := Int.not_le.mp h
          rw [ofJson, if_pos hsigned, wire, Json.ofInt64_ofInt hn hsigned]
      | real x hx => rw [ofJson, wire, Json.Number.ofFloat?_of_isFinite hx]
  | str s => rfl
  | arr items => rfl
  | obj members => rfl

/-- A wide integer is sent as the double nearest to it. -/
theorem wire_ofJson_of_isWide {n : Int}
    (h : -0x8000000000000000 ≤ n ∧ n < 0x10000000000000000) (hwide : 0x8000000000000000 ≤ n) :
    (ofJson (.num (.int n h))).wire = (float (Float.ofInt n)).wire := by
  rw [ofJson, if_neg (Int.not_lt.mpr hwide)]

theorem wire_float_of_isFinite {x : Float} (h : x.isFinite = true) :
    (float x).wire = .num (.real x h) := by
  rw [wire, Json.Number.ofFloat?_of_isFinite h]

theorem wire_float_of_not_isFinite {x : Float} (h : ¬ x.isFinite = true) :
    (float x).wire = .str (nonFiniteName x) := by
  have hnone : Json.Number.ofFloat? x = none := dif_neg h
  rw [wire, hnone]

theorem nonFiniteName_ne_toString (x : Float) (n : Nat) : nonFiniteName x ≠ toString n := by
  intro h
  have hdigits : ∀ c ∈ (nonFiniteName x).toList, c.isDigit = true := by
    intro c hc
    rw [h, Nat.toString_eq_repr, Nat.toList_repr] at hc
    exact Nat.isDigit_of_mem_toDigits (by decide) (by decide) hc
  unfold nonFiniteName at hdigits
  split at hdigits
  · exact absurd (hdigits 'N' (by decide)) (by decide)
  · split at hdigits
    · exact absurd (hdigits '-' (by decide)) (by decide)
    · exact absurd (hdigits 'I' (by decide)) (by decide)

/-- A double is sent neither as an integer nor as the text of one. -/
theorem wire_float_ne (x : Float) :
    (∀ n h, (float x).wire ≠ .num (.int n h)) ∧ ∀ n : Nat, (float x).wire ≠ .str (toString n) := by
  by_cases hfinite : x.isFinite = true
  · rw [wire_float_of_isFinite hfinite]
    constructor
    · intro n h hsame
      cases hsame
    · intro n hsame
      cases hsame
  · rw [wire_float_of_not_isFinite hfinite]
    constructor
    · intro n h hsame
      cases hsame
    · intro n hsame
      exact nonFiniteName_ne_toString x n (Json.str.inj hsame)

theorem wire_ofJson_eq_iff {j : Json} : (ofJson j).wire = j ↔ ¬ j.IsWide := by
  refine ⟨?_, wire_ofJson⟩
  intro hsame hwide
  obtain ⟨n, h, rfl, hle⟩ := hwide.exists_int
  rw [wire_ofJson_of_isWide h hle] at hsame
  exact (wire_float_ne _).1 n h hsame

/-- A JSON value is sent as it was given or, an integer past the signed 64-bit range, as the text
of its digits. -/
def SentInFull (j : Json) : Prop :=
  (ofJson j).wire = j ∨
    ∃ n h, j = .num (.int n h) ∧ 0x8000000000000000 ≤ n ∧ (ofJson j).wire = .str (toString n.toNat)

theorem sentInFull_iff {j : Json} : SentInFull j ↔ ¬ j.IsWide := by
  constructor
  · rintro (hsame | ⟨n, h, rfl, hle, hdigits⟩)
    · exact wire_ofJson_eq_iff.mp hsame
    · rw [wire_ofJson_of_isWide h hle] at hdigits
      exact absurd hdigits ((wire_float_ne _).2 _)
  · intro h
    exact .inl (wire_ofJson h)

theorem map_wire_map_ofJson_eq_iff {list : List Json} :
    (list.map ofJson).map wire = list ↔ ∀ j ∈ list, ¬ j.IsWide := by
  calc (list.map ofJson).map wire = list
      ↔ list.map (wire ∘ ofJson) = list.map id := by rw [List.map_map, List.map_id]
    _ ↔ ∀ j ∈ list, (ofJson j).wire = j := List.map_inj_left
    _ ↔ ∀ j ∈ list, ¬ j.IsWide := by simp only [wire_ofJson_eq_iff]

theorem wire_ofUInt64 (n : UInt64) : (ofUInt64 n).wire =
    if n.toNat < 0x8000000000000000 then .ofUInt64 n else .str (toString n.toNat) := by
  unfold ofUInt64
  split
  · next h =>
      have hn : (n.toNat : Int) < 0x8000000000000000 := by omega
      rw [wire, Json.ofInt64_ofInt ⟨by omega, by omega⟩ hn]
      rfl
  · rfl

end Value

/-- The values of a JSON object with distinct names, in its order. -/
theorem Record.values_ofPairs_members {members : List (String × Json)}
    (h : (Assoc.names members).Nodup) :
    (ofPairs (members.map fun m => (m.1, Value.ofJson m.2))).values =
      (members.map Prod.snd).map Value.ofJson := by
  have hnames : Assoc.names (members.map fun m => (m.1, Value.ofJson m.2)) =
      Assoc.names members := by
    rw [Assoc.names, Assoc.names, List.map_map]
    rfl
  rw [← hnames] at h
  have hpairs : (ofPairs (members.map fun m => (m.1, Value.ofJson m.2))).fields =
      members.map fun m => (m.1, Value.ofJson m.2) := Assoc.ofPairs_of_nodup_names h
  rw [values, hpairs, List.map_map, List.map_map]
  rfl

namespace Chain

variable {c : Chain} {s : Statement} {list : List Json} {members : List (String × Json)}

theorem request_params_eq {q : Query} {operation : Operation} (table : String)
    (h : q.compile operation = .ok s) :
    (Dispatch.ofStatement table s).request.params = (q.boundValues operation).map Value.wire := by
  rw [← Query.params_of_compile h]
  rfl

theorem params_of_insertJson (hnames : (Assoc.names members).Nodup)
    (h : (c.call (.insertJson (.obj members))).query.compile
      (c.call (.insertJson (.obj members))).operation = .ok s) :
    (Dispatch.ofStatement c.query.table s).request.params =
      ((members.map Prod.snd).map Value.ofJson).map Value.wire := by
  rw [request_params_eq _ h]
  change ((Record.ofPairs _).values).map Value.wire = _
  rw [Record.values_ofPairs_members hnames]

theorem params_of_updateJson (hnames : (Assoc.names members).Nodup)
    (hfilters : c.query.filterValues = list.map Value.ofJson)
    (h : (c.call (.updateJson (.obj members))).query.compile
      (c.call (.updateJson (.obj members))).operation = .ok s) :
    (Dispatch.ofStatement c.query.table s).request.params =
      ((members.map Prod.snd ++ list).map Value.ofJson).map Value.wire := by
  rw [request_params_eq _ h]
  change ((Record.ofPairs _).values ++ c.query.filterValues).map Value.wire = _
  simp only [Record.values_ofPairs_members hnames, hfilters, List.map_append]

theorem params_of_filters (hfilters : c.query.filterValues = list.map Value.ofJson)
    (hoperation : c.operation = .select ∨ c.operation = .delete)
    (h : c.query.compile c.operation = .ok s) :
    (Dispatch.ofStatement c.query.table s).request.params =
      (list.map Value.ofJson).map Value.wire := by
  have hbound : c.query.boundValues c.operation = c.query.filterValues := by
    obtain hselect | hdelete := hoperation
    · rw [hselect]
      rfl
    · rw [hdelete]
      rfl
  rw [request_params_eq _ h, hbound, hfilters]

/-- A JSON value reaches the request in full unless it is an integer past the signed 64-bit range
that stands alone, which as an unsigned host integer is sent as the text of its digits. So the
values of a record given as a JSON object and those of conditions on JSON values are sent as they
were given exactly when none of them is such an integer. -/
theorem json_reaches_request (j : Json) (n : UInt64) (c : Chain) (members : List (String × Json))
    (list : List Json) (s : Statement) :
    (Value.SentInFull j ↔ ¬ j.IsWide) ∧
    (Value.ofUInt64 n).wire =
      (if n.toNat < 0x8000000000000000 then .ofUInt64 n else .str (toString n.toNat)) ∧
    ((Assoc.names members).Nodup →
      (c.call (.insertJson (.obj members))).query.compile
        (c.call (.insertJson (.obj members))).operation = .ok s →
      ((Dispatch.ofStatement c.query.table s).request.params = members.map Prod.snd ↔
        ∀ j ∈ members.map Prod.snd, ¬ j.IsWide)) ∧
    ((Assoc.names members).Nodup → c.query.filterValues = list.map Value.ofJson →
      (c.call (.updateJson (.obj members))).query.compile
        (c.call (.updateJson (.obj members))).operation = .ok s →
      ((Dispatch.ofStatement c.query.table s).request.params = members.map Prod.snd ++ list ↔
        ∀ j ∈ members.map Prod.snd ++ list, ¬ j.IsWide)) ∧
    (c.query.filterValues = list.map Value.ofJson →
      c.operation = .select ∨ c.operation = .delete → c.query.compile c.operation = .ok s →
      ((Dispatch.ofStatement c.query.table s).request.params = list ↔
        ∀ j ∈ list, ¬ j.IsWide)) := by
  refine ⟨Value.sentInFull_iff, Value.wire_ofUInt64 n, ?_, ?_, ?_⟩
  · intro hnames h
    rw [params_of_insertJson hnames h, Value.map_wire_map_ofJson_eq_iff]
  · intro hnames hfilters h
    rw [params_of_updateJson hnames hfilters h, Value.map_wire_map_ofJson_eq_iff]
  · intro hfilters hoperation h
    rw [params_of_filters hfilters hoperation h, Value.map_wire_map_ofJson_eq_iff]

theorem json_of_task_reaches_request :
    let wide := Json.ofUInt64 0x8000000000000001
    let members := [("note", .str "it's"), ("done", .null), ("totals", Json.arr [wide])]
    let c := (ofTable "tasks").call (.compare "tags" .equal (Value.ofJson (.arr [.bool true])))
    (Assoc.names members).Nodup ∧
      c.query.filterValues = [Json.arr [.bool true]].map Value.ofJson ∧
      ∃ s, (c.call (.updateJson (.obj members))).query.compile
          (c.call (.updateJson (.obj members))).operation = .ok s ∧
        (Dispatch.ofStatement c.query.table s).request.params =
          members.map Prod.snd ++ [.arr [.bool true]] := by
  refine ⟨by decide, rfl, _, rfl, ?_⟩
  have hupdate := (json_reaches_request .null 0
    ((ofTable "tasks").call (.compare "tags" .equal (Value.ofJson (.arr [.bool true]))))
    [("note", .str "it's"), ("done", .null), ("totals", .arr [.ofUInt64 0x8000000000000001])]
    [.arr [.bool true]] _).2.2.2.1 (by decide) rfl rfl
  apply hupdate.mpr
  simp [Json.IsWide]

/-- An integer past the signed range is neither sent as it was given nor as the text of its digits,
and its neighbour is sent as the same number. -/
theorem wide_json_is_rounded :
    let j := Json.num (.int 0x8000000000000001 (by decide))
    ¬ Value.SentInFull j ∧ (Value.ofUInt64 0x8000000000000001).wire = .str "9223372036854775809" ∧
      (Value.ofJson j).wire = .num (.real (Float.ofInt 0x8000000000000001) (by decide)) ∧
      (Value.ofJson j).wire = (Value.ofJson (.num (.int 0x8000000000000000 (by decide)))).wire := by
  intro j
  have hwide : (0x8000000000000000 : Int) ≤ 0x8000000000000001 := by decide
  have hround : Float.ofInt 0x8000000000000001 = Float.ofInt 0x8000000000000000 := by decide
  refine ⟨?_, rfl, ?_, ?_⟩
  · intro h
    exact Value.sentInFull_iff.mp h hwide
  · rw [Value.wire_ofJson_of_isWide _ hwide]
    exact Value.wire_float_of_isFinite _
  · rw [Value.wire_ofJson_of_isWide _ hwide, Value.wire_ofJson_of_isWide _ (by decide), hround]

end Chain

end SqlGateway
