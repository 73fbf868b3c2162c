import Mathlib.Data.List.Forall2
import SqlGateway.Json.Decoder

/-! Exactly what decoders read. Each law tells, for a decoder and a value, all the documents that
the value is read from. The fields of a structure are told by the members of an object that name
them, or by the places of an array. -/
namespace SqlGateway.Json.Decoder

variable {α : Type}

theorem string_eq_some_iff {room : Nat} {d : Document} {s : String} :
    string room d = some s ↔ d = .string (some s) := by
  cases d with
  | string value => exact ⟨congrArg Document.string, Document.string.inj⟩
  | _ => exact ⟨fun h => (nomatch h), fun h => (nomatch h)⟩

theorem integer_eq_some_iff {room : Nat} {d : Document} {n : Int} :
    integer room d = some n ↔ ∃ h, d = .number (some (.int n h)) := by
  constructor
  · intro hread
    unfold integer at hread
    split at hread
    · next m hm =>
        cases hread
        exact ⟨hm, rfl⟩
    · cases hread
  · rintro ⟨h, rfl⟩
    rfl

/-- An unsigned integer is read from the token of that integer alone. -/
theorem uint64_eq_some_iff {room : Nat} {d : Document} {n : UInt64} :
    uint64 room d = some n ↔ d = .number (some (.ofUInt64 n)) := by
  constructor
  · intro h
    obtain ⟨m, hm, hn⟩ := Option.bind_eq_some_iff.mp h
    obtain ⟨hrange, rfl⟩ := integer_eq_some_iff.mp hm
    split at hn
    · next hle =>
        cases hn
        have hlt : m.toNat < UInt64.size := by
          have hsize : UInt64.size = 0x10000000000000000 := rfl
          omega
        have htoNat : ((UInt64.ofNat m.toNat).toNat : Int) = m := by
          rw [UInt64.toNat_ofNat_of_lt' hlt]
          omega
        simp only [Number.ofUInt64, htoNat]
    · cases hn
  · rintro rfl
    have hle : (0 : Int) ≤ n.toNat := by omega
    simp only [uint64, integer, Number.ofUInt64, Option.bind_some, if_pos hle, Int.toNat_natCast,
      UInt64.ofNat_toNat]

theorem mapM_eq_some_iff {β : Type} {f : β → Option α} {bs : List β} {as : List α} :
    bs.mapM f = some as ↔ List.Forall₂ (fun b a => f b = some a) bs as := by
  induction bs generalizing as with
  | nil =>
      rw [List.mapM_nil, List.forall₂_nil_left_iff]
      exact ⟨fun h => (Option.some.inj h).symm, fun h => congrArg some h.symm⟩
  | cons b bs ih =>
      rw [List.mapM_cons, List.forall₂_cons_left_iff]
      simp only [Option.bind_eq_bind, Option.bind_eq_some_iff, Option.pure_def,
        Option.some.injEq, ih]
      constructor
      · rintro ⟨a, ha, rest, hrest, rfl⟩
        exact ⟨a, rest, ha, hrest, rfl⟩
      · rintro ⟨a, rest, ha, hrest, rfl⟩
        exact ⟨a, ha, rest, hrest, rfl⟩

theorem list_eq_some_iff {decode : Decoder α} {room : Nat} {d : Document} {as : List α} :
    list decode (room + 1) d = some as ↔
      ∃ items, d = .array items ∧
        List.Forall₂ (fun item a => decode room item = some a) items as := by
  cases d with
  | array items =>
      rw [list, mapM_eq_some_iff]
      exact ⟨fun h => ⟨items, rfl, h⟩, fun ⟨_, hitems, h⟩ => Document.array.inj hitems ▸ h⟩
  | _ => exact ⟨fun h => (nomatch h), fun ⟨_, h, _⟩ => (nomatch h)⟩

/-- Free-form objects are read from objects only. -/
theorem row_eq_some_iff {room : Nat} {d : Document} {r : Row} :
    row room d = some r ↔
      ∃ members, d = .object members ∧ ofDocument? room d = some (.obj r) := by
  constructor
  · intro h
    unfold row at h
    split at h
    · next found hread =>
        cases h
        cases d with
        | object members => exact ⟨members, rfl, hread⟩
        | null => cases hread
        | bool b => cases hread
        | number n =>
            obtain ⟨_, _, hkind⟩ := Option.map_eq_some_iff.mp hread
            cases hkind
        | string s =>
            obtain ⟨_, _, hkind⟩ := Option.map_eq_some_iff.mp hread
            cases hkind
        | array items =>
            cases room with
            | zero => cases hread
            | succ room =>
                obtain ⟨_, _, hkind⟩ := Option.map_eq_some_iff.mp hread
                cases hkind
    · cases h
  · rintro ⟨members, rfl, hread⟩
    rw [row, hread]

theorem option_of_ne_null {decode : Decoder α} {d : Document} {room : Nat} (h : d ≠ .null) :
    option decode room d = (decode room d).map some := by
  cases d with
  | null => exact absurd rfl h
  | _ => rfl

/-- What may stand for a value that may be missing: null, or the value. -/
def Nullable (reads : Document → α → Prop) (d : Document) : Option α → Prop
  | none => d = .null
  | some a => reads d a

theorem option_eq_some_iff {decode : Decoder α} {room : Nat} {reads : Document → α → Prop}
    (hreads : ∀ d a, decode room d = some a ↔ reads d a) (hnull : ∀ a, ¬ reads .null a)
    {d : Document} {o : Option α} :
    option decode room d = some o ↔ Nullable reads d o := by
  cases o with
  | none => cases d <;> simp [option, Nullable]
  | some a =>
      rw [Nullable, ← hreads]
      cases d with
      | null => simp [option, hreads, hnull]
      | _ => simp [option]

/-! ### Members of objects and places of arrays -/

/-- What an object says about a member that may be missing from it: nothing, or a value, once. -/
inductive Stated (members : List (Option String × Document)) (name : String) (absent : α)
    (reads : Document → α → Prop) : α → Prop
  | missing : (∀ d, (some name, d) ∉ members) → Stated members name absent reads absent
  | given {d : Document} {a : α} : members.filter (·.1 == some name) = [(some name, d)] →
      reads d a → Stated members name absent reads a

theorem memberSlot?_eq_missing_iff {members : List (Option String × Document)} {name : String} :
    memberSlot? members name = some .missing ↔ ∀ d, (some name, d) ∉ members := by
  have hnil : members.filter (·.1 == some name) = [] ↔ ∀ d, (some name, d) ∉ members := by
    rw [List.filter_eq_nil_iff]
    constructor
    · intro h d hd
      exact h _ hd (beq_self_eq_true _)
    · rintro h ⟨key, d⟩ hd hkey
      obtain rfl : key = some name := beq_iff_eq.mp hkey
      exact h d hd
  rw [← hnil, memberSlot?]
  split
  · next h => exact ⟨fun _ => h, fun _ => rfl⟩
  · next h => simp [h]
  · next h _ => exact ⟨fun hslot => (nomatch hslot), fun hempty => absurd hempty h⟩

theorem memberSlot?_eq_given_iff {members : List (Option String × Document)} {name : String}
    {d : Document} : memberSlot? members name = some (.given d) ↔
      members.filter (·.1 == some name) = [(some name, d)] := by
  rw [memberSlot?]
  split
  · next h => simp [h]
  · next key found h =>
      have hmem : (key, found) ∈ members.filter (·.1 == some name) := by
        rw [h]
        exact List.mem_singleton_self _
      have hkey : key = some name := by simpa using (List.mem_filter.mp hmem).2
      simp [h, hkey]
  · next h hmany =>
      exact ⟨fun hslot => (nomatch hslot), fun hone => absurd hone (hmany _ _)⟩

theorem memberSlot?_ne_cutOff {members : List (Option String × Document)} {name : String} :
    memberSlot? members name ≠ some .cutOff := by
  unfold memberSlot?
  split
  · exact fun h => nomatch h
  · exact fun h => nomatch h
  · exact fun h => nomatch h

theorem stated_iff {decode : Decoder α} {room : Nat} {reads : Document → α → Prop}
    (hreads : ∀ d a, decode room d = some a ↔ reads d a)
    {members : List (Option String × Document)} {name : String} {absent a : α} :
    (∃ slot, memberSlot? members name = some slot ∧ slot.defaulted decode absent room = some a) ↔
      Stated members name absent reads a := by
  constructor
  · rintro ⟨slot, hslot, hread⟩
    cases slot with
    | given d => exact .given (memberSlot?_eq_given_iff.mp hslot) ((hreads d a).mp hread)
    | missing =>
        cases hread
        exact .missing (memberSlot?_eq_missing_iff.mp hslot)
    | cutOff => exact absurd hslot memberSlot?_ne_cutOff
  · intro h
    cases h with
    | missing h => exact ⟨.missing, memberSlot?_eq_missing_iff.mpr h, rfl⟩
    | given h hread => exact ⟨.given _, memberSlot?_eq_given_iff.mpr h, (hreads _ a).mpr hread⟩

/-- What an array says about the field at this place, if it goes on so far. -/
def Placed (items : List Document) (place : Nat) (absent : α) (reads : Document → α → Prop)
    (a : α) : Prop :=
  match items[place]? with
  | none => a = absent
  | some d => reads d a

/-- The slot of an array for the field at this place. -/
def itemSlot (items : List Document) (place : Nat) : Slot :=
  match items[place]? with
  | none => .cutOff
  | some d => .given d

theorem itemSlots?_eq_some_iff {names : List String} {items : List Document} {slots : List Slot} :
    itemSlots? names items = some slots ↔
      items.length ≤ names.length ∧ slots = names.mapIdx fun place _ => itemSlot items place := by
  induction names generalizing items slots with
  | nil =>
      cases items with
      | nil => simp [itemSlots?, eq_comm]
      | cons d rest => simp [itemSlots?]
  | cons name names ih =>
      cases items with
      | nil =>
          simp only [itemSlots?, Option.map_eq_some_iff, ih, List.length_nil, Nat.zero_le, true_and,
            List.mapIdx_cons]
          constructor
          · rintro ⟨_, rfl, rfl⟩
            rfl
          · rintro rfl
            exact ⟨_, rfl, rfl⟩
      | cons d rest =>
          simp only [itemSlots?, Option.map_eq_some_iff, ih, List.length_cons,
            Nat.add_le_add_iff_right, List.mapIdx_cons]
          constructor
          · rintro ⟨_, ⟨hlength, rfl⟩, rfl⟩
            exact ⟨hlength, rfl⟩
          · rintro ⟨hlength, rfl⟩
            exact ⟨_, ⟨hlength, rfl⟩, rfl⟩

theorem placed_iff {decode : Decoder α} {room : Nat} {reads : Document → α → Prop}
    (hreads : ∀ d a, decode room d = some a ↔ reads d a) {items : List Document} {place : Nat}
    {absent a : α} :
    (itemSlot items place).defaulted decode absent room = some a ↔
      Placed items place absent reads a := by
  unfold itemSlot Placed
  cases items[place]? with
  | none => exact ⟨fun h => (Option.some.inj h).symm, fun h => congrArg some h.symm⟩
  | some d => exact hreads d a

/-- An object has a slot for each name, if all its keys have a value. -/
theorem slots?_object_eq_some_iff {names : List String} {members : List (Option String × Document)}
    {slots : List Slot} : slots? names (.object members) = some slots ↔
      (∀ member ∈ members, member.1 ≠ none) ∧
        List.Forall₂ (fun name slot => memberSlot? members name = some slot) names slots := by
  rw [slots?, ← mapM_eq_some_iff]
  have hkeys : members.any (·.1.isNone) = true ↔ ¬ ∀ member ∈ members, member.1 ≠ none := by
    simp [Option.isNone_iff_eq_none]
  by_cases h : ∀ member ∈ members, member.1 ≠ none
  · rw [if_neg (not_not_intro h ∘ hkeys.mp)]
    exact ⟨fun hslots => ⟨h, hslots⟩, fun hslots => hslots.2⟩
  · rw [if_pos (hkeys.mpr h)]
    exact ⟨fun hslots => (nomatch hslots), fun hslots => absurd hslots.1 h⟩

end SqlGateway.Json.Decoder
