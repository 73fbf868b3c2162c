import SqlGateway.Query.Filter
import SqlGateway.Proofs.Json.Written

/-! Stored values, and the conditions and records made of them, read back as they were. The kind is
written in front of every value, at any nesting, so that no two values are written alike. -/
namespace SqlGateway

open Json Decoder

namespace Value

/-- Doubles are finite, and no object names a member twice. -/
inductive Storable : Value → Prop
  | null : Storable .null
  | boolean (b : Bool) : Storable (.boolean b)
  | integer (n : Int64) : Storable (.integer n)
  | float {x : Float} : x.isFinite = true → Storable (.float x)
  | text (s : String) : Storable (.text s)
  | array {items : List Value} : (∀ v ∈ items, Storable v) → Storable (.array items)
  | json {j : Json} : j.Distinct → Storable (.json j)

theorem encodeItems_eq_map (items : List Value) : encodeItems items = items.map encode := by
  induction items with
  | nil => rfl
  | cons v rest ih => rw [encodeItems, ih, List.map_cons]

theorem decodeItems_encodeItems {items : List Value} {room : Nat}
    (h : ∀ v ∈ items, decode room (Document.ofJson v.encode) = some v) :
    decodeItems room (Document.ofItems (encodeItems items)) = some items := by
  induction items with
  | nil => rfl
  | cons v rest ih =>
      rw [List.forall_mem_cons] at h
      rw [encodeItems, Document.ofItems, decodeItems, h.1, ih h.2]

/-- A value other than null and an array is read by its kind. -/
theorem decode_of_scalar {kind : String} {j : Json} {v : Value} (harray : kind ≠ "Array")
    (hnull : kind ≠ "Null")
    (h : Reads (decodeScalar · kind ·) j v) : Reads decode (.obj [(kind, j)]) v := by
  intro room hroom
  obtain ⟨inner, rfl, hinner⟩ := exists_room_of_obj hroom
  have hj := hinner _ List.mem_cons_self
  change decode (inner + 1) (.object [(some kind, Document.ofJson j)]) = some v
  unfold decode
  dsimp only
  rw [if_neg harray, if_neg hnull]
  exact h inner hj

theorem reads_encode {v : Value} (h : v.Storable) : Reads decode v.encode v := by
  induction h with
  | null => exact fun _ _ => rfl
  | boolean b => exact decode_of_scalar (by decide) (by decide) ((reads_boolean b).map boolean)
  | integer n => exact decode_of_scalar (by decide) (by decide) ((reads_int64 n).map integer)
  | float hfinite =>
      exact decode_of_scalar (by decide) (by decide) ((reads_float hfinite).map float)
  | text s => exact decode_of_scalar (by decide) (by decide) ((reads_string s).map text)
  | json hdistinct =>
      exact decode_of_scalar (by decide) (by decide) ((reads_value hdistinct).map json)
  | @array items _ ih =>
      -- an array stands in an object that names its kind, so two containers are opened
      intro room hroom
      obtain ⟨middle, rfl, hmiddle⟩ := exists_room_of_obj hroom
      obtain ⟨inner, rfl, hinner⟩ := exists_room_of_arr (hmiddle _ List.mem_cons_self)
      rw [encodeItems_eq_map, List.forall_mem_map] at hinner
      have hread := decodeItems_encodeItems fun v hv => ih v hv inner (hinner v hv)
      change decode (inner + 1 + 1) (.object [(some "Array",
        .array (Document.ofItems (encodeItems items)))]) = some (array items)
      rw [decode, if_pos rfl]
      simp only [hread, Option.map_some]

end Value

namespace Comparison

theorem reads_encode (c : Comparison) : Reads decode c.encode c := by
  intro room _
  cases c with
  | equal => rfl
  | notEqual => rfl
  | like => rfl

end Comparison

namespace Filter

variable {column : String}

theorem reads_compare (c : Comparison) {v : Value} (h : v.Storable) :
    Reads decodeCompare (.obj [("column", .str column), ("op", c.encode), ("value", v.encode)])
      (.compare column c v) := by
  refine reads_struct (by simp) ?_
  intro room hroom
  simp only [List.map_cons, List.map_nil, Option.bind_eq_bind, Option.bind_eq_some_iff]
  exact ⟨_, required_writtenSlot rfl (reads_string column) hroom,
    _, required_writtenSlot rfl c.reads_encode hroom,
    _, required_writtenSlot rfl (Value.reads_encode h) hroom, rfl⟩

theorem reads_among {values : List Value} (h : ∀ v ∈ values, v.Storable) :
    Reads decodeAmong (.obj [("column", .str column), ("values", .arr (values.map Value.encode))])
      (.among column values) := by
  refine reads_struct (by simp) ?_
  intro room hroom
  simp only [List.map_cons, List.map_nil, Option.bind_eq_bind, Option.bind_eq_some_iff]
  exact ⟨_, required_writtenSlot rfl (reads_string column) hroom,
    _, required_writtenSlot rfl (reads_list fun v hv => Value.reads_encode (h v hv)) hroom, rfl⟩

theorem reads_encode {f : Filter} (h : ∀ v ∈ f.values, v.Storable) :
    Reads decode f.encode f := by
  intro room hroom
  cases f with
  | compare column c v =>
      obtain ⟨inner, rfl, hinner⟩ := exists_room_of_obj hroom
      exact reads_compare c (h v List.mem_cons_self) inner (hinner _ List.mem_cons_self)
  | among column values =>
      obtain ⟨inner, rfl, hinner⟩ := exists_room_of_obj hroom
      exact reads_among h inner (hinner _ List.mem_cons_self)

end Filter

namespace Record

/-- The fields are an array of pairs, so they keep their order, and a column that is named twice
stays so. -/
theorem reads_encode {r : Record} (h : ∀ v ∈ r.values, v.Storable) : Reads decode r.encode r := by
  have hfield : ∀ field ∈ r.fields, Reads (pair string Value.decode)
      (.arr [.str field.1, field.2.encode]) field := by
    intro field hfield
    have hstorable := h field.2 (List.mem_map_of_mem hfield)
    exact (reads_string field.1).pair (Value.reads_encode hstorable)
  refine reads_struct (by simp) ?_
  intro room hroom
  simp only [List.map_cons, List.map_nil]
  rw [required_writtenSlot rfl (reads_list hfield) hroom]
  rfl

end Record

end SqlGateway
