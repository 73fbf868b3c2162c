import Mathlib
import SqlGateway.Account
import SqlGateway.Gateway.Messages
import SqlGateway.Proofs.Value.Codec

/-! Whatever is written as JSON reads back as it was, as long as the JSON text itself does. Each type
has its own law; the last theorem is about all the types that callers may store or send. -/
namespace SqlGateway

open Json Decoder

/-- Every row names a member at most once, and so do the objects inside it. -/
def DistinctRows (rows : List Row) : Prop := ∀ r ∈ rows, (Json.obj r).Distinct

theorem Json.obj_ne_null (members : List (String × Json)) : obj members ≠ .null :=
  fun h => nomatch h

namespace QueryRequest

theorem reads_encode {r : QueryRequest} (h : ∀ j ∈ r.params, j.Distinct) :
    Reads decode r.encode r := by
  have hparams := reads_items (List.forall₂_same.mpr fun j hj => reads_value (h j hj))
  refine reads_struct (by simp) ?_
  intro room hroom
  simp only [List.map_cons, List.map_nil, Option.bind_eq_bind, Option.bind_eq_some_iff]
  exact ⟨_, required_writtenSlot rfl (reads_string r.sql) hroom,
    _, required_writtenSlot rfl hparams hroom, rfl⟩

end QueryRequest

namespace QueryResponse

/-- An absent member is written as null and read as absent. -/
theorem reads_encode {r : QueryResponse} (h : DistinctRows r.rows) : Reads decode r.encode r := by
  have hrows := reads_list fun row hrow => reads_row (h row hrow)
  have hcount : Reads (option uint64) (.ofOption .ofUInt64 r.rowCount) r.rowCount :=
    reads_option (fun n _ => reads_uint64 n) fun _ _ hnull => nomatch hnull
  have hcommand : Reads (option string) (.ofOption .str r.command) r.command :=
    reads_option (fun s _ => reads_string s) fun _ _ hnull => nomatch hnull
  refine reads_struct (by simp) ?_
  intro room hroom
  simp only [List.map_cons, List.map_nil, Option.bind_eq_bind, Option.bind_eq_some_iff]
  exact ⟨_, defaulted_writtenSlot rfl hrows hroom, _, defaulted_writtenSlot rfl hcount hroom,
    _, defaulted_writtenSlot rfl hcommand hroom, rfl⟩

end QueryResponse

namespace RowData

theorem distinct_encode {data : RowData} (h : DistinctRows data.toRows) : data.encode.Distinct := by
  cases data with
  | rows all => exact .arr (List.forall_mem_map.mpr h)
  | row r => exact h r List.mem_cons_self

theorem encode_ne_null (data : RowData) : data.encode ≠ .null := by
  cases data with
  | rows all => exact fun h => nomatch h
  | row r => exact fun h => nomatch h

/-- One row is an object and several are an array, also where there are none. -/
theorem ofJson?_encode (data : RowData) : ofJson? data.encode = some data := by
  cases data with
  | row r => rfl
  | rows all =>
      have hall : (all.map Json.obj).mapM ofJson?.asObject? = some all := by
        rw [mapM_eq_some_iff, List.forall₂_map_left_iff, List.forall₂_same]
        exact fun _ _ => rfl
      rw [encode, ofJson?, hall, Option.map_some]

theorem reads_encode {data : RowData} (h : DistinctRows data.toRows) :
    Reads decode data.encode data := by
  intro room hroom
  rw [decode, ofDocument?_ofJson (distinct_encode h) hroom, Option.bind_some, ofJson?_encode]

end RowData

namespace EnvelopeError

theorem reads_encode (e : EnvelopeError) : Reads decode e.encode e := by
  refine reads_struct (by simp) ?_
  intro room hroom
  simp only [List.map_cons, List.map_nil, Option.bind_eq_bind, Option.bind_eq_some_iff]
  exact ⟨_, required_writtenSlot rfl (reads_string e.code) hroom,
    _, required_writtenSlot rfl (reads_string e.message) hroom, rfl⟩

theorem reads_option_encode (o : Option EnvelopeError) :
    Reads (option decode) (.ofOption encode o) o :=
  reads_option (fun e _ => e.reads_encode) fun _ _ => Json.obj_ne_null _

end EnvelopeError

/-- Data that is itself written as null would be lost. -/
theorem Envelope.reads_encode {α : Type} {decodeData : Decoder α} {encodeData : α → Json}
    {e : Envelope α} (hdata : ∀ a ∈ e.data, Reads decodeData (encodeData a) a)
    (hnull : ∀ a ∈ e.data, encodeData a ≠ .null) :
    Reads (decode decodeData) (e.encode encodeData) e := by
  refine reads_struct (by simp) ?_
  intro room hroom
  simp only [List.map_cons, List.map_nil, Option.bind_eq_bind, Option.bind_eq_some_iff]
  exact ⟨_, optional_writtenSlot rfl (reads_option hdata hnull) hroom,
    _, optional_writtenSlot rfl (EnvelopeError.reads_option_encode e.error) hroom, rfl⟩

theorem ErrorEnvelope.reads_encode (e : ErrorEnvelope) : Reads decode e.encode e := by
  refine reads_struct (by simp) ?_
  intro room hroom
  simp only [List.map_cons, List.map_nil, Option.bind_eq_bind, Option.bind_eq_some_iff]
  exact ⟨_, optional_writtenSlot rfl (EnvelopeError.reads_option_encode e.error) hroom, rfl⟩

/-- A member without a value is left out, and a member that is left out has none. -/
theorem User.reads_encode (u : User) : Reads decode u.encode u := by
  have hnull : ∀ s : String, Json.str s ≠ .null := fun _ h => nomatch h
  refine reads_struct ?names ?fields
  case names =>
    -- either member may be left out
    cases u.name <;> cases u.createdAt <;> simp
  case fields =>
    intro room hroom
    simp only [List.map_cons, List.map_nil, Option.bind_eq_bind, Option.bind_eq_some_iff]
    refine ⟨_, required_writtenSlot ?_ (reads_string u.id) hroom,
      _, required_writtenSlot ?_ (reads_string u.email) hroom,
      _, defaulted_writtenSlot_of_map ?_ (fun s _ => reads_string s) (fun s _ => hnull s) hroom,
      _, defaulted_writtenSlot_of_map ?_ (fun s _ => reads_string s) (fun s _ => hnull s) hroom,
      rfl⟩
    all_goals simp [Assoc.get?_append, Assoc.get?_toList_map, Assoc.get?]

theorem Session.reads_encode (s : Session) : Reads decode s.encode s := by
  have hnull : ∀ n : Int64, Json.ofInt64 n ≠ .null := fun _ h => nomatch h
  refine reads_struct ?names ?fields
  case names =>
    cases s.expiresAt <;> simp
  case fields =>
    intro room hroom
    simp only [List.map_cons, List.map_nil, Option.bind_eq_bind, Option.bind_eq_some_iff]
    refine ⟨_, required_writtenSlot ?_ (reads_string s.accessToken) hroom,
      _, required_writtenSlot ?_ (reads_string s.refreshToken) hroom,
      _, required_writtenSlot ?_ s.user.reads_encode hroom,
      _, defaulted_writtenSlot_of_map ?_ (fun n _ => reads_int64 n) (fun n _ => hnull n) hroom,
      rfl⟩
    all_goals simp [Assoc.get?_toList_map, Assoc.get?]

theorem SessionData.reads_encode (d : SessionData) : Reads decode d.encode d := by
  have hsession : Reads (option Session.decode) (.ofOption Session.encode d.session) d.session :=
    reads_option (fun s _ => s.reads_encode) fun _ _ => Json.obj_ne_null _
  refine reads_struct (by simp) ?_
  intro room hroom
  simp only [List.map_cons, List.map_nil, Option.bind_eq_bind, Option.bind_eq_some_iff]
  exact ⟨_, optional_writtenSlot rfl hsession hroom, rfl⟩

theorem UserData.reads_encode (d : UserData) : Reads decode d.encode d := by
  have huser : Reads (option User.decode) (.ofOption User.encode d.user) d.user :=
    reads_option (fun u _ => u.reads_encode) fun _ _ => Json.obj_ne_null _
  refine reads_struct (by simp) ?_
  intro room hroom
  simp only [List.map_cons, List.map_nil, Option.bind_eq_bind, Option.bind_eq_some_iff]
  exact ⟨_, optional_writtenSlot rfl huser hroom, rfl⟩

/-- The types that are stored or sent as JSON. -/
inductive Stored where
  | value
  | filter
  | record
  | request
  | response
  | data
  | envelope
  | errorEnvelope
  | session
  | sessionData
  | user
  | userData
  deriving DecidableEq, Repr

namespace Stored

def Carrier : Stored → Type
  | value => Value
  | filter => Filter
  | record => Record
  | request => QueryRequest
  | response => QueryResponse
  | data => RowData
  | envelope => Envelope RowData
  | errorEnvelope => ErrorEnvelope
  | session => Session
  | sessionData => SessionData
  | user => User
  | userData => UserData

def encode : (kind : Stored) → kind.Carrier → Json
  | value => Value.encode
  | filter => Filter.encode
  | record => Record.encode
  | request => QueryRequest.encode
  | response => QueryResponse.encode
  | data => RowData.encode
  | envelope => Envelope.encode RowData.encode
  | errorEnvelope => ErrorEnvelope.encode
  | session => Session.encode
  | sessionData => SessionData.encode
  | user => User.encode
  | userData => UserData.encode

def decode : (kind : Stored) → Decoder kind.Carrier
  | value => Value.decode
  | filter => Filter.decode
  | record => Record.decode
  | request => QueryRequest.decode
  | response => QueryResponse.decode
  | data => RowData.decode
  | envelope => Envelope.decode RowData.decode
  | errorEnvelope => ErrorEnvelope.decode
  | session => Session.decode
  | sessionData => SessionData.decode
  | user => User.decode
  | userData => UserData.decode

/-- Doubles that are values are finite, and no free-form object names a member twice. -/
def Sound : (kind : Stored) → kind.Carrier → Prop
  | value, v => Value.Storable v
  | filter, f => ∀ v ∈ Filter.values f, v.Storable
  | record, r => ∀ v ∈ Record.values r, v.Storable
  | request, r => ∀ j ∈ QueryRequest.params r, j.Distinct
  | response, r => DistinctRows (QueryResponse.rows r)
  | data, d => DistinctRows (RowData.toRows d)
  | envelope, e => ∀ d ∈ Envelope.data e, DistinctRows (RowData.toRows d)
  | errorEnvelope, _ => True
  | session, _ => True
  | sessionData, _ => True
  | user, _ => True
  | userData, _ => True

theorem reads_encode {kind : Stored} {a : kind.Carrier} (h : kind.Sound a) :
    Reads kind.decode (kind.encode a) a := by
  cases kind with
  | value => exact Value.reads_encode h
  | filter => exact Filter.reads_encode h
  | record => exact Record.reads_encode h
  | request => exact QueryRequest.reads_encode h
  | response => exact QueryResponse.reads_encode h
  | data => exact RowData.reads_encode h
  | envelope =>
      exact Envelope.reads_encode (fun d hd => RowData.reads_encode (h d hd))
        fun d _ => d.encode_ne_null
  | errorEnvelope => exact ErrorEnvelope.reads_encode a
  | session => exact Session.reads_encode a
  | sessionData => exact SessionData.reads_encode a
  | user => exact User.reads_encode a
  | userData => exact UserData.reads_encode a

/-- Where the JSON library reads its own text back and the nesting is within the limit, the text of
a stored value is read as that very value: one row stays one row and several stay several, a value
keeps its kind at any nesting, a record keeps its order, and what is absent stays absent. -/
theorem run_decode_text {kind : Stored} {a : kind.Carrier} (hsound : kind.Sound a)
    (hdepth : RowData.depth (kind.encode a) ≤ limit) (htext : (kind.encode a).TextReadsBack) :
    (Document.ofText? (kind.encode a).text).bind (Decoder.run kind.decode) = some a := by
  have hread : Decoder.run kind.decode (Document.ofJson (kind.encode a)) = some a :=
    reads_encode hsound limit hdepth
  rw [htext, Option.bind_some, hread]

/-- A record with a JSON array and an array of values keeps its order and its kinds. -/
theorem run_decode_text_of_mixed_record :
    let r : Record := ⟨[("b", .json (.arr [.null, .str "x"])), ("a", .array [.null, .text "x"])]⟩
    r.encode.text = "\x7b\"fields\":[[\"b\",\x7b\"Json\":[null,\"x\"]\x7d]," ++
        "[\"a\",\x7b\"Array\":[\"Null\",\x7b\"Text\":\"x\"\x7d]\x7d]]\x7d" ∧
      (Document.ofText? r.encode.text).bind (Decoder.run Record.decode) = some r := by
  have hjson : Value.Storable (.json (.arr [.null, .str "x"])) := by
    refine .json (.arr ?_)
    simp [Json.Distinct.null, Json.Distinct.str]
  have harray : Value.Storable (.array [.null, .text "x"]) := by
    refine .array ?_
    simp [Value.Storable.null, Value.Storable.text]
  dsimp only
  refine ⟨by cbv, @run_decode_text .record _ ?sound (by decide) ?text⟩
  case sound =>
    simp [Sound, Record.values, hjson, harray]
  case text =>
    unfold TextReadsBack
    cbv

end Stored

end SqlGateway
