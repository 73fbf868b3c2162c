import Mathlib
import SqlGateway.Http.Transport
import SqlGateway.Proofs.Json.Reading

/-! Which bodies are taken for the answer of a successful request. An object of the documented shape
is read as its members say. An array is read as well, by its places, and so an empty array counts as
an answer without rows. Every other body is malformed. -/
namespace SqlGateway

open Json (Document Decoder)
open Json.Decoder (Stated Placed Nullable)

namespace QueryResponse

/-- An object, as the row of its members. Two containers stand around it. -/
def IsRow (d : Document) (r : Row) : Prop :=
  ∃ members, d = .object members ∧ Json.ofDocument? (Decoder.limit - 2) d = some (.obj r)

def IsRows (d : Document) (rows : List Row) : Prop :=
  ∃ items, d = .array items ∧ List.Forall₂ IsRow items rows

def IsCount (d : Document) (n : UInt64) : Prop := d = .number (some (.ofUInt64 n))

def IsText (d : Document) (s : String) : Prop := d = .string (some s)

/-- An object of the documented shape, with the answer that it states. -/
inductive Documented : Document → QueryResponse → Prop
  | object {members : List (Option String × Document)} {rows : List Row}
      {rowCount : Option UInt64} {command : Option String} :
      (∀ member ∈ members, member.1 ≠ none) → Stated members "rows" [] IsRows rows →
      Stated members "rowCount" none (Nullable IsCount) rowCount →
      Stated members "command" none (Nullable IsText) command →
      Documented (.object members) ⟨rows, rowCount, command⟩

/-- An array of at most three items, with the answer that it states by their places. -/
inductive Positional : Document → QueryResponse → Prop
  | array {items : List Document} {rows : List Row} {rowCount : Option UInt64}
      {command : Option String} : items.length ≤ 3 → Placed items 0 [] IsRows rows →
      Placed items 1 none (Nullable IsCount) rowCount →
      Placed items 2 none (Nullable IsText) command →
      Positional (.array items) ⟨rows, rowCount, command⟩

theorem rows_eq_some_iff {d : Document} {rows : List Row} :
    Decoder.list Decoder.row (Decoder.limit - 1) d = some rows ↔ IsRows d rows := by
  refine Decoder.list_eq_some_iff.trans ?_
  simp only [Decoder.row_eq_some_iff]
  rfl

theorem rowCount_eq_some_iff {d : Document} {n : Option UInt64} :
    Decoder.option Decoder.uint64 (Decoder.limit - 1) d = some n ↔ Nullable IsCount d n :=
  Decoder.option_eq_some_iff (fun _ _ => Decoder.uint64_eq_some_iff) fun _ h => nomatch h

theorem text_eq_some_iff {room : Nat} {d : Document} {s : Option String} :
    Decoder.option Decoder.string room d = some s ↔ Nullable IsText d s :=
  Decoder.option_eq_some_iff (fun _ _ => Decoder.string_eq_some_iff) fun _ h => nomatch h

/-- What is built from the slots of the three fields. -/
def ofSlots? (rows rowCount command : Decoder.Slot) : Option QueryResponse := do
  return ⟨← rows.defaulted (Decoder.list Decoder.row) [] (Decoder.limit - 1),
    ← rowCount.defaulted (Decoder.option Decoder.uint64) none (Decoder.limit - 1),
    ← command.defaulted (Decoder.option Decoder.string) none (Decoder.limit - 1)⟩

theorem ofSlots?_eq_some_iff {rows rowCount command : Decoder.Slot} {response : QueryResponse} :
    ofSlots? rows rowCount command = some response ↔
      rows.defaulted (Decoder.list Decoder.row) [] (Decoder.limit - 1) = some response.rows ∧
        rowCount.defaulted (Decoder.option Decoder.uint64) none (Decoder.limit - 1) =
          some response.rowCount ∧
        command.defaulted (Decoder.option Decoder.string) none (Decoder.limit - 1) =
          some response.command := by
  simp only [ofSlots?, Option.bind_eq_bind, Option.bind_eq_some_iff, Option.pure_def,
    Option.some.injEq]
  constructor
  · rintro ⟨_, hrows, _, hrowCount, _, hcommand, rfl⟩
    exact ⟨hrows, hrowCount, hcommand⟩
  · rintro ⟨hrows, hrowCount, hcommand⟩
    exact ⟨_, hrows, _, hrowCount, _, hcommand, rfl⟩

theorem run_decode_eq_some_iff {d : Document} {response : QueryResponse} :
    Decoder.run decode d = some response ↔ ∃ rows rowCount command,
      Decoder.slots? ["rows", "rowCount", "command"] d = some [rows, rowCount, command] ∧
        ofSlots? rows rowCount command = some response := by
  refine Option.bind_eq_some_iff.trans ?_
  constructor
  · rintro ⟨slots, hslots, hbuild⟩
    match slots, hslots, hbuild with
    | [rows, rowCount, command], hslots, hbuild => exact ⟨rows, rowCount, command, hslots, hbuild⟩
  · rintro ⟨rows, rowCount, command, hslots, hbuild⟩
    exact ⟨_, hslots, hbuild⟩

theorem run_decode_object_iff {members : List (Option String × Document)}
    {response : QueryResponse} :
    Decoder.run decode (.object members) = some response ↔
      Documented (.object members) response := by
  rw [run_decode_eq_some_iff]
  simp only [Decoder.slots?_object_eq_some_iff, List.forall₂_cons, List.Forall₂.nil, and_true,
    ofSlots?_eq_some_iff]
  constructor
  · rintro ⟨rows, rowCount, command, ⟨hkeys, hrows, hrowCount, hcommand⟩, hrows', hrowCount',
      hcommand'⟩
    exact .object hkeys ((Decoder.stated_iff fun _ _ => rows_eq_some_iff).mp ⟨rows, hrows, hrows'⟩)
      ((Decoder.stated_iff fun _ _ => rowCount_eq_some_iff).mp ⟨rowCount, hrowCount, hrowCount'⟩)
      ((Decoder.stated_iff fun _ _ => text_eq_some_iff).mp ⟨command, hcommand, hcommand'⟩)
  · rintro ⟨hkeys, hrows, hrowCount, hcommand⟩
    obtain ⟨rows, hrows, hrows'⟩ := (Decoder.stated_iff fun _ _ => rows_eq_some_iff).mpr hrows
    obtain ⟨rowCount, hrowCount, hrowCount'⟩ :=
      (Decoder.stated_iff fun _ _ => rowCount_eq_some_iff).mpr hrowCount
    obtain ⟨command, hcommand, hcommand'⟩ :=
      (Decoder.stated_iff fun _ _ => text_eq_some_iff).mpr hcommand
    exact ⟨rows, rowCount, command, ⟨hkeys, hrows, hrowCount, hcommand⟩, hrows', hrowCount',
      hcommand'⟩

theorem run_decode_array_iff {items : List Document} {response : QueryResponse} :
    Decoder.run decode (.array items) = some response ↔ Positional (.array items) response := by
  have hplaces : ∀ {rows rowCount command : Decoder.Slot},
      Decoder.slots? ["rows", "rowCount", "command"] (.array items) =
          some [rows, rowCount, command] ↔
        items.length ≤ 3 ∧ rows = Decoder.itemSlot items 0 ∧
          rowCount = Decoder.itemSlot items 1 ∧ command = Decoder.itemSlot items 2 := by
    intro rows rowCount command
    exact Decoder.itemSlots?_eq_some_iff.trans (by simp)
  rw [run_decode_eq_some_iff]
  simp only [hplaces, ofSlots?_eq_some_iff]
  constructor
  · rintro ⟨_, _, _, ⟨hlength, rfl, rfl, rfl⟩, hrows, hrowCount, hcommand⟩
    exact .array hlength ((Decoder.placed_iff fun _ _ => rows_eq_some_iff).mp hrows)
      ((Decoder.placed_iff fun _ _ => rowCount_eq_some_iff).mp hrowCount)
      ((Decoder.placed_iff fun _ _ => text_eq_some_iff).mp hcommand)
  · rintro ⟨hlength, hrows, hrowCount, hcommand⟩
    exact ⟨_, _, _, ⟨hlength, rfl, rfl, rfl⟩,
      (Decoder.placed_iff fun _ _ => rows_eq_some_iff).mpr hrows,
      (Decoder.placed_iff fun _ _ => rowCount_eq_some_iff).mpr hrowCount,
      (Decoder.placed_iff fun _ _ => text_eq_some_iff).mpr hcommand⟩

theorem run_decode_iff {d : Document} {response : QueryResponse} :
    Decoder.run decode d = some response ↔ Documented d response ∨ Positional d response := by
  cases d with
  | object members =>
      rw [run_decode_object_iff]
      exact ⟨.inl, fun h => h.resolve_right fun hpositional => (nomatch hpositional)⟩
  | array items =>
      rw [run_decode_array_iff]
      exact ⟨.inr, fun h => h.resolve_left fun hdocumented => (nomatch hdocumented)⟩
  | _ => exact ⟨fun h => (nomatch h), fun h => by rcases h with h | h <;> cases h⟩

end QueryResponse

namespace Http

theorem isFinal_of_isSuccess {status : UInt16} (h : isSuccess status = true) :
    isFinal status = true := by
  simp only [isSuccess, isFinal, Bool.and_eq_true, Bool.or_eq_true, decide_eq_true_eq,
    UInt16.le_iff_toNat_le, UInt16.lt_iff_toNat_lt] at h ⊢
  have hbound : (300 : UInt16).toNat ≤ (1000 : UInt16).toNat := by decide
  exact .inr ⟨h.1, Nat.lt_of_lt_of_le h.2 hbound⟩

theorem outcome_send {s : Sender} (hsend : s.canSend = true) {peer : Peer} {r : Response}
    {rest : List Connection} (hpeer : peer.connections = .answers r :: rest)
    (hstatus : isSuccess r.status = true) {body : List UInt8} (hbody : r.wholeBody = .ok body)
    (request : QueryRequest) :
    (s.transport.send peer request).1.outcome =
      match (Document.ofBytes? body).bind (Decoder.run QueryResponse.decode) with
      | some response => .ok response
      | none => .error (.decode .queryResponse) := by
  have hexchange : (s.transport.send peer request).1 =
      Connection.exchange Response.queryOutcome (.answers r) := by
    change (s.exchange _ _ peer).1 = _
    rw [Sender.exchange, if_pos hsend, hpeer]
  have houtcome : (s.transport.send peer request).1.outcome = r.queryOutcome := by
    rw [hexchange, Connection.exchange, isFinal_of_isSuccess hstatus]
    rfl
  rw [houtcome, Response.queryOutcome, hbody]
  change (if isSuccess r.status = true then _ else _) = _
  rw [if_pos hstatus]
  rfl

/-- A success is accepted with the answer that its body states, as an object of the documented shape
or as an array by its places, and every other body is an error of its own kind. -/
theorem outcome_of_success {s : Sender} (hsend : s.canSend = true) {peer : Peer} {r : Response}
    {rest : List Connection} (hpeer : peer.connections = .answers r :: rest)
    (hstatus : isSuccess r.status = true) {body : List UInt8} (hbody : r.wholeBody = .ok body)
    (request : QueryRequest) :
    (∀ response, (s.transport.send peer request).1.outcome = .ok response ↔
        ∃ d, Document.ofBytes? body = some d ∧
          (QueryResponse.Documented d response ∨ QueryResponse.Positional d response)) ∧
      ((∀ response, (s.transport.send peer request).1.outcome ≠ .ok response) →
        (s.transport.send peer request).1.outcome = .error (.decode .queryResponse)) := by
  rw [outcome_send hsend hpeer hstatus hbody request]
  have hread : ∀ response,
      (Document.ofBytes? body).bind (Decoder.run QueryResponse.decode) = some response ↔
        ∃ d, Document.ofBytes? body = some d ∧
          (QueryResponse.Documented d response ∨ QueryResponse.Positional d response) := by
    intro response
    simp only [Option.bind_eq_some_iff, QueryResponse.run_decode_iff]
  cases h : (Document.ofBytes? body).bind (Decoder.run QueryResponse.decode) with
  | none =>
      refine ⟨fun response => ?_, fun _ => rfl⟩
      rw [← hread, h]
      exact ⟨fun hok => (nomatch hok), fun hsome => (nomatch hsome)⟩
  | some found =>
      refine ⟨fun response => ?_, fun hnone => absurd rfl (hnone found)⟩
      rw [← hread, h]
      exact ⟨fun hok => congrArg some (Except.ok.inj hok),
        fun hsome => congrArg Except.ok (Option.some.inj hsome)⟩

/-- Members may stand in any order and may be missing, and others are skipped. -/
theorem outcome_of_one_task :
    let s : Sender := ⟨"/api/db/query", true, none, none, "shimdb/0.3.0"⟩
    let text := "\x7b\"rowCount\":7,\"more\":[],\"rows\":[\x7b\"id\":1\x7d]\x7d"
    let r : Response := ⟨200, text.toUTF8.toList, false⟩
    isSuccess r.status = true ∧
      (s.transport.send ⟨[.answers r], []⟩ ⟨"SELECT 1", []⟩).1.outcome =
        .ok ⟨[[("id", .ofUInt64 1)]], some 7, none⟩ := by
  intro s text r
  have hread : Document.ofText?
      "\x7b\"rowCount\":7,\"more\":[],\"rows\":[\x7b\"id\":1\x7d]\x7d" = some (.object
        [(some "rowCount", .number (some (.ofUInt64 7))), (some "more", .array []),
          (some "rows", .array [.object [(some "id", .number (some (.ofUInt64 1)))]])]) := by
    cbv
  refine ⟨rfl, ((outcome_of_success rfl rfl rfl rfl _).1 _).mpr ⟨_, hread, .inl ?_⟩⟩
  exact .object (by simp) (.given rfl ⟨_, rfl, .cons ⟨_, rfl, rfl⟩ .nil⟩) (.given rfl rfl)
    (.missing (by simp))

/-- An empty array is no object of the documented shape, and is accepted as an answer without
rows. -/
theorem empty_array_is_an_answer :
    let s : Sender := ⟨"/api/db/query", true, none, none, "shimdb/0.3.0"⟩
    let r : Response := ⟨200, "[]".toUTF8.toList, false⟩
    isSuccess r.status = true ∧ Document.ofText? "[]" = some (.array []) ∧
      (∀ response, ¬ QueryResponse.Documented (.array []) response) ∧
      (s.transport.send ⟨[.answers r], []⟩ ⟨"SELECT 1", []⟩).1.outcome = .ok ⟨[], none, none⟩ := by
  intro s r
  have hbody : r.wholeBody = .ok "[]".toUTF8.toList := rfl
  have hread : Document.ofBytes? "[]".toUTF8.toList = some (.array []) := by cbv
  have hrun : Decoder.run QueryResponse.decode (.array []) = some ⟨[], none, none⟩ := rfl
  refine ⟨rfl, hread, fun response hdocumented => (nomatch hdocumented), ?_⟩
  rw [outcome_send rfl rfl rfl hbody, hread, Option.bind_some, hrun]

end Http

end SqlGateway
