import SqlGateway.RowData
import SqlGateway.Proofs.Assoc
import SqlGateway.Proofs.Json.Reading

/-! Decoders that read a value back from what it is written as, given room for the containers that
stand one inside another there. A structure reads back if each of its fields does. -/
namespace SqlGateway.Json

open RowData (depth depthItems depthMembers)

/-- No object names a member twice, as none in memory does. -/
inductive Distinct : Json → Prop
  | null : Distinct .null
  | bool (b : Bool) : Distinct (.bool b)
  | num (n : Number) : Distinct (.num n)
  | str (s : String) : Distinct (.str s)
  | arr {items : List Json} : (∀ j ∈ items, Distinct j) → Distinct (.arr items)
  | obj {members : List (String × Json)} : (Assoc.names members).Nodup →
      (∀ member ∈ members, Distinct member.2) → Distinct (.obj members)

/-- The text of a value is read as the document that the value is written as. -/
def TextReadsBack (j : Json) : Prop := Document.ofText? j.text = some (.ofJson j)

theorem depthItems_le_iff {items : List Json} {room : Nat} :
    depthItems items ≤ room ↔ ∀ j ∈ items, depth j ≤ room := by
  induction items with
  | nil => simp [depthItems]
  | cons j rest ih => rw [depthItems, Nat.max_le, ih, List.forall_mem_cons]

theorem depthMembers_le_iff {members : List (String × Json)} {room : Nat} :
    depthMembers members ≤ room ↔ ∀ member ∈ members, depth member.2 ≤ room := by
  induction members with
  | nil => simp [depthMembers]
  | cons member rest ih =>
      obtain ⟨name, j⟩ := member
      rw [depthMembers, Nat.max_le, ih, List.forall_mem_cons]

theorem exists_room_of_arr {items : List Json} {room : Nat} (h : depth (.arr items) ≤ room) :
    ∃ inner, room = inner + 1 ∧ ∀ j ∈ items, depth j ≤ inner := by
  cases room with
  | zero => exact absurd h (Nat.not_succ_le_zero _)
  | succ inner => exact ⟨inner, rfl, depthItems_le_iff.mp (Nat.le_of_succ_le_succ h)⟩

theorem exists_room_of_obj {members : List (String × Json)} {room : Nat}
    (h : depth (.obj members) ≤ room) :
    ∃ inner, room = inner + 1 ∧ ∀ member ∈ members, depth member.2 ≤ inner := by
  cases room with
  | zero => exact absurd h (Nat.not_succ_le_zero _)
  | succ inner => exact ⟨inner, rfl, depthMembers_le_iff.mp (Nat.le_of_succ_le_succ h)⟩

theorem ofItems?_ofItems {items : List Json} {room : Nat}
    (h : ∀ j ∈ items, ofDocument? room (.ofJson j) = some j) :
    ofItems? room (Document.ofItems items) = some items := by
  induction items with
  | nil => rfl
  | cons j rest ih =>
      rw [List.forall_mem_cons] at h
      rw [Document.ofItems, ofItems?, h.1, ih h.2]

theorem ofMembers?_ofMembers {members : List (String × Json)} {room : Nat}
    (h : ∀ member ∈ members, ofDocument? room (.ofJson member.2) = some member.2) :
    ofMembers? room (Document.ofMembers members) = some members := by
  induction members with
  | nil => rfl
  | cons member rest ih =>
      obtain ⟨name, j⟩ := member
      rw [List.forall_mem_cons] at h
      simp only [Document.ofMembers, ofMembers?, h.1, ih h.2]

/-- Reading a free-form value merges members of one name, so they must be distinct. -/
theorem ofDocument?_ofJson {j : Json} (hdistinct : j.Distinct) {room : Nat}
    (hroom : depth j ≤ room) : ofDocument? room (.ofJson j) = some j := by
  induction hdistinct generalizing room with
  | null => rfl
  | bool b => rfl
  | num n => rfl
  | str s => rfl
  | arr _ ih =>
      obtain ⟨inner, rfl, hitems⟩ := exists_room_of_arr hroom
      have hread := ofItems?_ofItems fun j hj => ih j hj (hitems j hj)
      rw [Document.ofJson, ofDocument?, hread, Option.map_some]
  | obj hnames _ ih =>
      obtain ⟨inner, rfl, hmembers⟩ := exists_room_of_obj hroom
      have hread := ofMembers?_ofMembers fun member hm => ih member hm (hmembers member hm)
      -- the members are put one after the other, which leaves distinct ones as they are
      rw [Document.ofJson, ofDocument?, hread, Option.map_some,
        Assoc.ofPairs_of_nodup_names hnames]

namespace Decoder

variable {α β : Type} {decode : Decoder α} {encode : α → Json} {j : Json} {a : α}

/-- The value `a` is read wherever `j` is written and there is room for it. -/
def Reads (decode : Decoder α) (j : Json) (a : α) : Prop :=
  ∀ room, depth j ≤ room → decode room (.ofJson j) = some a

theorem reads_value (h : j.Distinct) : Reads value j j := fun _ => ofDocument?_ofJson h

theorem reads_row {r : Row} (h : (obj r).Distinct) : Reads row (.obj r) r := by
  intro room hroom
  rw [row, ofDocument?_ofJson h hroom]

theorem reads_string (s : String) : Reads string (.str s) s := fun _ _ => rfl

theorem reads_boolean (b : Bool) : Reads boolean (.bool b) b := fun _ _ => rfl

theorem reads_int64 (n : Int64) : Reads int64 (.ofInt64 n) n := by
  intro room _
  have hinteger : integer room (.ofJson (.ofInt64 n)) = some n.toInt := rfl
  have hsigned : n.toInt < 0x8000000000000000 := n.toInt_lt
  rw [int64, hinteger, Option.bind_some, if_pos hsigned, Int64.ofInt_toInt]

theorem reads_uint64 (n : UInt64) : Reads uint64 (.ofUInt64 n) n :=
  fun _ _ => uint64_eq_some_iff.mpr rfl

theorem reads_float {x : Float} (h : x.isFinite = true) : Reads float (.ofFloat x) x := by
  intro room _
  rw [ofFloat, Number.ofFloat?, dif_pos h]
  rfl

theorem ofJson_ne_null (h : j ≠ .null) : Document.ofJson j ≠ .null := by
  cases j with
  | null => exact absurd rfl h
  | _ => exact fun heq => (nomatch heq)

/-- A value that is itself written as null would be read as none at all. -/
theorem reads_option {o : Option α} (hreads : ∀ a ∈ o, Reads decode (encode a) a)
    (hnull : ∀ a ∈ o, encode a ≠ .null) : Reads (option decode) (.ofOption encode o) o := by
  intro room hroom
  cases o with
  | none => rfl
  | some a =>
      have hread := hreads a rfl room hroom
      have hne := ofJson_ne_null (hnull a rfl)
      rw [ofOption, option_of_ne_null hne, hread, Option.map_some]

theorem mapM_ofItems {items : List Json} {as : List α} (h : List.Forall₂ (Reads decode) items as)
    {room : Nat} (hroom : ∀ j ∈ items, depth j ≤ room) :
    (Document.ofItems items).mapM (decode room) = some as := by
  induction h with
  | nil => rfl
  | cons hfirst _ ih =>
      rw [List.forall_mem_cons] at hroom
      rw [Document.ofItems, List.mapM_cons, hfirst room hroom.1, ih hroom.2]
      rfl

theorem reads_items {items : List Json} {as : List α} (h : List.Forall₂ (Reads decode) items as) :
    Reads (list decode) (.arr items) as := by
  intro room hroom
  obtain ⟨inner, rfl, hitems⟩ := exists_room_of_arr hroom
  rw [Document.ofJson, list, mapM_ofItems h hitems]

theorem reads_list {as : List α} (h : ∀ a ∈ as, Reads decode (encode a) a) :
    Reads (list decode) (.arr (as.map encode)) as :=
  reads_items (List.forall₂_map_left_iff.mpr (List.forall₂_same.mpr h))

theorem Reads.map (h : Reads decode j a) (f : α → β) :
    Reads (fun room d => (decode room d).map f) j (f a) := by
  intro room hroom
  exact congrArg (Option.map f) (h room hroom)

theorem Reads.pair {first : Decoder α} {second : Decoder β} {k : Json} {b : β}
    (hfirst : Reads first j a) (hsecond : Reads second k b) :
    Reads (Decoder.pair first second) (.arr [j, k]) (a, b) := by
  intro room hroom
  obtain ⟨inner, rfl, hitems⟩ := exists_room_of_arr hroom
  simp only [List.forall_mem_cons] at hitems
  simp only [Document.ofJson, Document.ofItems, Decoder.pair, hfirst inner hitems.1,
    hsecond inner hitems.2.1]

/-! ### Structures -/

variable {members : List (String × Json)} {name : String} {room : Nat}

/-- What the written members say about the field of this name. -/
def writtenSlot (members : List (String × Json)) (name : String) : Slot :=
  match Assoc.get? name members with
  | some j => .given (.ofJson j)
  | none => .missing

theorem filter_ofMembers (h : (Assoc.names members).Nodup) :
    (Document.ofMembers members).filter (·.1 == some name) =
      ((Assoc.get? name members).map fun j => (some name, Document.ofJson j)).toList := by
  induction members with
  | nil => rfl
  | cons member rest ih =>
      obtain ⟨other, j⟩ := member
      rw [Assoc.names_cons, List.nodup_cons] at h
      have hrest := ih h.2
      by_cases hname : other = name
      · subst hname
        rw [Assoc.get?_of_notMem_names h.1] at hrest
        rw [Document.ofMembers, List.filter_cons_of_pos (by simp), hrest, Assoc.get?, if_pos rfl]
        rfl
      · rw [Document.ofMembers, List.filter_cons_of_neg (by simpa using hname), hrest, Assoc.get?,
          if_neg hname]

theorem memberSlot?_ofMembers (h : (Assoc.names members).Nodup) :
    memberSlot? (Document.ofMembers members) name = some (writtenSlot members name) := by
  rw [memberSlot?, filter_ofMembers h, writtenSlot]
  cases Assoc.get? name members with
  | none => rfl
  | some j => rfl

theorem key_ne_none_of_mem_ofMembers {member : Option String × Document}
    (h : member ∈ Document.ofMembers members) : member.1 ≠ none := by
  induction members with
  | nil => cases h
  | cons first rest ih =>
      rw [Document.ofMembers, List.mem_cons] at h
      obtain rfl | h := h
      · exact Option.some_ne_none _
      · exact ih h

theorem slots?_ofMembers (h : (Assoc.names members).Nodup) (names : List String) :
    slots? names (.object (Document.ofMembers members)) =
      some (names.map (writtenSlot members)) := by
  rw [slots?_object_eq_some_iff, List.forall₂_map_right_iff, List.forall₂_same]
  exact ⟨fun _ => key_ne_none_of_mem_ofMembers, fun _ _ => memberSlot?_ofMembers h⟩

theorem reads_struct {names : List String} {build : Nat → List Slot → Option α}
    (hnames : (Assoc.names members).Nodup)
    (hbuild : ∀ room, depthMembers members ≤ room →
      build room (names.map (writtenSlot members)) = some a) :
    Reads (struct names build) (.obj members) a := by
  intro room hroom
  obtain ⟨inner, rfl, hmembers⟩ := exists_room_of_obj hroom
  rw [Document.ofJson, struct, slots?_ofMembers hnames, Option.bind_some,
    hbuild inner (depthMembers_le_iff.mpr hmembers)]

theorem depth_le_of_get? (hget : Assoc.get? name members = some j)
    (hroom : depthMembers members ≤ room) : depth j ≤ room :=
  depthMembers_le_iff.mp hroom _ (Assoc.mem_of_get? hget)

theorem required_writtenSlot (hget : Assoc.get? name members = some j) (h : Reads decode j a)
    (hroom : depthMembers members ≤ room) :
    (writtenSlot members name).required decode room = some a := by
  rw [writtenSlot, hget]
  exact h room (depth_le_of_get? hget hroom)

theorem optional_writtenSlot {o : Option α} (hget : Assoc.get? name members = some j)
    (h : Reads (option decode) j o) (hroom : depthMembers members ≤ room) :
    (writtenSlot members name).optional decode room = some o := by
  rw [writtenSlot, hget]
  exact h room (depth_le_of_get? hget hroom)

theorem defaulted_writtenSlot {default : α} (hget : Assoc.get? name members = some j)
    (h : Reads decode j a) (hroom : depthMembers members ≤ room) :
    (writtenSlot members name).defaulted decode default room = some a := by
  rw [writtenSlot, hget]
  exact h room (depth_le_of_get? hget hroom)

/-- A field that is written only where it has a value. -/
theorem defaulted_writtenSlot_of_map {o : Option α}
    (hget : Assoc.get? name members = o.map encode)
    (hreads : ∀ a ∈ o, Reads decode (encode a) a) (hnull : ∀ a ∈ o, encode a ≠ .null)
    (hroom : depthMembers members ≤ room) :
    (writtenSlot members name).defaulted (option decode) none room = some o := by
  cases o with
  | none =>
      rw [writtenSlot, hget]
      rfl
  | some a => exact defaulted_writtenSlot hget (reads_option hreads hnull) hroom

end Decoder

end SqlGateway.Json
