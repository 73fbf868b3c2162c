import SqlGateway.Proofs.Json.Reading

/-! What a decoder that has read a value has seen. Each statement tells the document that the parts
of the value were read from. -/
namespace SqlGateway.Json.Decoder

variable {α β : Type} {name : String} {d : Document}

/-- The document of a structure's only field. -/
def onlyField? (name : String) : Document → Option Document
  | .object members => (members.find? (·.1 == some name)).map Prod.snd
  | .array items => items.head?
  | _ => none

theorem memberSlot?_eq_given {members : List (Option String × Document)} {content : Document}
    (h : memberSlot? members name = some (.given content)) :
    onlyField? name (.object members) = some content := by
  have hfilter := memberSlot?_eq_given_iff.mp h
  rw [onlyField?, ← List.head?_filter, hfilter]
  rfl

theorem slots?_singleton {slots : List Slot} (h : slots? [name] d = some slots) :
    ∃ slot, slots = [slot] ∧
      ∀ content, slot = .given content → onlyField? name d = some content := by
  cases d with
  | object members =>
      obtain ⟨-, hslots⟩ := slots?_object_eq_some_iff.mp h
      cases hslots with
      | cons hslot hrest =>
          cases hrest
          refine ⟨_, rfl, fun content hgiven => ?_⟩
          rw [hgiven] at hslot
          exact memberSlot?_eq_given hslot
  | array items =>
      obtain ⟨-, rfl⟩ := itemSlots?_eq_some_iff.mp h
      refine ⟨itemSlot items 0, rfl, fun content hgiven => ?_⟩
      cases items with
      | nil => cases hgiven
      | cons first rest =>
          cases hgiven
          rfl
  | null => cases h
  | bool b => cases h
  | number n => cases h
  | string s => cases h

theorem required_eq_some {decode : Decoder α} {room : Nat} {slot : Slot} {a : α}
    (h : slot.required decode room = some a) :
    ∃ content, slot = .given content ∧ decode room content = some a := by
  cases slot with
  | given content => exact ⟨content, rfl, h⟩
  | missing => cases h
  | cutOff => cases h

theorem list_eq_some {decode : Decoder α} {room : Nat} {list : List α}
    (h : Decoder.list decode room d = some list) :
    ∃ room items, d = .array items ∧ items.mapM (decode room) = some list := by
  cases room with
  | zero => cases d <;> cases h
  | succ room =>
      obtain ⟨items, hitems, hall⟩ := list_eq_some_iff.mp h
      exact ⟨room, items, hitems, mapM_eq_some_iff.mpr hall⟩

theorem pair_eq_some {first : Decoder α} {second : Decoder β} {room : Nat} {a : α} {b : β}
    (h : pair first second room d = some (a, b)) :
    ∃ room x y, d = .array [x, y] ∧ first room x = some a ∧ second room y = some b := by
  unfold pair at h
  split at h
  · next room x y =>
      split at h
      · next hfirst hsecond =>
          cases h
          exact ⟨room, x, y, rfl, hfirst, hsecond⟩
      · cases h
  · cases h

end SqlGateway.Json.Decoder
