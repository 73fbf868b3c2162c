import Mathlib
import SqlGateway.Proofs.Gateway.Conversation
import SqlGateway.Proofs.Json.Reading

/-! Envelopes with at most one side filled. Every call of a client and every way to make an envelope
from another keeps to that. A stored envelope is taken as it is: it has both sides exactly where its
text fills both. -/
namespace SqlGateway

open Json (Decoder Document)

namespace Json.Decoder

def Slot.Filled : Slot → Prop
  | given d => d ≠ .null
  | _ => False

theorem filled_iff_of_optional {α : Type} {decode : Decoder α} {room : Nat} {slot : Slot}
    {o : Option α} (h : slot.optional decode room = some o) : slot.Filled ↔ o ≠ none := by
  cases slot with
  | given d =>
      by_cases hnull : d = .null
      · subst hnull
        cases h
        simp [Slot.Filled]
      · rw [Slot.optional, option_of_ne_null hnull] at h
        obtain ⟨a, -, rfl⟩ := Option.map_eq_some_iff.mp h
        simp [Slot.Filled, hnull]
  | missing =>
      cases h
      simp [Slot.Filled]
  | cutOff => cases h

theorem filled_iff_of_memberSlot? {members : List (Option String × Document)} {name : String}
    {slot : Slot} (h : memberSlot? members name = some slot) :
    slot.Filled ↔ ∃ d, (some name, d) ∈ members ∧ d ≠ .null := by
  cases slot with
  | given d =>
      have hfilter := memberSlot?_eq_given_iff.mp h
      have hmem : ∀ d', (some name, d') ∈ members ↔ d' = d := by
        intro d'
        have hnamed : (some name, d') ∈ members ↔
            (some name, d') ∈ members.filter (·.1 == some name) := by simp
        rw [hnamed, hfilter, List.mem_singleton, Prod.mk.injEq]
        exact ⟨And.right, fun heq => ⟨rfl, heq⟩⟩
      constructor
      · intro hfilled
        exact ⟨d, (hmem d).mpr rfl, hfilled⟩
      · rintro ⟨d', hd', hne⟩
        rwa [(hmem d').mp hd'] at hne
  | missing =>
      have hnone := memberSlot?_eq_missing_iff.mp h
      constructor
      · exact False.elim
      · rintro ⟨d, hd, -⟩
        exact hnone d hd
  | cutOff => exact absurd h memberSlot?_ne_cutOff

end Json.Decoder

namespace Envelope

variable {α β σ : Type}

/-- At most one side is filled. -/
def Exclusive (e : Envelope α) : Prop := e.data = none ∨ e.error = none

/-- A text that fills both sides of an envelope: neither is missing or null. -/
inductive Overfull : Document → Prop
  | object {members : List (Option String × Document)} {data error : Document} :
      (some "data", data) ∈ members → data ≠ .null →
      (some "error", error) ∈ members → error ≠ .null → Overfull (.object members)
  | array {data error : Document} : data ≠ .null → error ≠ .null → Overfull (.array [data, error])

theorem overfull_iff_of_slots? {d : Document} {data error : Decoder.Slot}
    (h : Decoder.slots? ["data", "error"] d = some [data, error]) :
    Overfull d ↔ data.Filled ∧ error.Filled := by
  cases d with
  | object members =>
      obtain ⟨-, hslots⟩ := Decoder.slots?_object_eq_some_iff.mp h
      rw [List.forall₂_cons, List.forall₂_cons] at hslots
      rw [Decoder.filled_iff_of_memberSlot? hslots.1, Decoder.filled_iff_of_memberSlot? hslots.2.1]
      constructor
      · rintro ⟨hdata, hdata', herror, herror'⟩
        exact ⟨⟨_, hdata, hdata'⟩, ⟨_, herror, herror'⟩⟩
      · rintro ⟨⟨_, hdata, hdata'⟩, ⟨_, herror, herror'⟩⟩
        exact .object hdata hdata' herror herror'
  | array items =>
      match items, h with
      | [], h =>
          cases h
          exact ⟨fun hfull => (nomatch hfull), fun hfilled => hfilled.1.elim⟩
      | [first], h =>
          cases h
          exact ⟨fun hfull => (nomatch hfull), fun hfilled => hfilled.2.elim⟩
      | [first, second], h =>
          cases h
          constructor
          · rintro (_ | ⟨hfirst, hsecond⟩)
            exact ⟨hfirst, hsecond⟩
          · rintro ⟨hfirst, hsecond⟩
            exact .array hfirst hsecond
      | _ :: _ :: _ :: _, h => cases h
  | _ => cases h

theorem decode_eq_some {data : Decoder α} {room : Nat} {d : Document} {e : Envelope α}
    (h : decode data room d = some e) : ∃ room first second,
      Decoder.slots? ["data", "error"] d = some [first, second] ∧
        first.optional data room = some e.data ∧
        second.optional EnvelopeError.decode room = some e.error := by
  cases room with
  | zero => cases h
  | succ room =>
      obtain ⟨slots, hslots, hbuild⟩ := Option.bind_eq_some_iff.mp h
      match slots, hslots, hbuild with
      | [first, second], hslots, hbuild =>
          simp only [Option.bind_eq_bind, Option.bind_eq_some_iff, Option.pure_def,
            Option.some.injEq] at hbuild
          obtain ⟨_, hdata, _, herror, rfl⟩ := hbuild
          exact ⟨room, first, second, hslots, hdata, herror⟩

theorem exclusive_iff_of_decode {data : Decoder α} {room : Nat} {d : Document} {e : Envelope α}
    (h : decode data room d = some e) : e.Exclusive ↔ ¬ Overfull d := by
  obtain ⟨room, first, second, hslots, hdata, herror⟩ := decode_eq_some h
  rw [overfull_iff_of_slots? hslots, Decoder.filled_iff_of_optional hdata,
    Decoder.filled_iff_of_optional herror, Exclusive, not_and_or, not_not, not_not]

theorem exclusive_ofResult (r : Except Failure (Option α)) : (ofResult r).Exclusive := by
  cases r with
  | ok data => exact .inr rfl
  | error f => exact .inl rfl

theorem exclusive_map_iff {f : α → β} {e : Envelope α} : (e.map f).Exclusive ↔ e.Exclusive := by
  rw [Exclusive, Exclusive, map, Option.map_eq_none_iff]

end Envelope

/-- The envelope that an answer holds, if it holds one. -/
inductive Answer.Carries : Answer → {α : Type} → Envelope α → Prop
  | chain (e : Envelope RowData) : Carries (.chain e) e
  | rows (e : Envelope (List Row)) : Carries (.rows e) e
  | row (e : Envelope Row) : Carries (.row e) e
  | session (e : Envelope SessionData) : Carries (.session e) e
  | user (e : Envelope UserData) : Carries (.user e) e
  | subscription (e : Envelope Account.Subscription) : Carries (.subscription e) e
  | json (e : Envelope Json) : Carries (.json e) e

namespace Envelope

variable {α β σ : Type}

theorem exclusive_procedureCall (now name : String) (params : Json) :
    (Procedure.call now name params).Exclusive := by
  unfold Procedure.call
  cases Procedure.resolve? name with
  | some procedure => exact .inr rfl
  | none => exact .inr rfl

theorem exclusive_run (c : Client σ) (chain : Chain) : (c.run chain).1.Exclusive := by
  rw [Client.run_eq]
  cases chain.compile.1 with
  | error e => exact .inl rfl
  | ok s => exact exclusive_ofResult _

theorem exclusive_query (c : Client σ) (sql : String) (params : List Value) :
    (c.query sql params).1.Exclusive := exclusive_ofResult _

/-- Whatever a caller does and whatever the other side answers, the envelope in the answer has at
most one side. -/
theorem exclusive_of_carries (s : Conversation σ) (action : Action) {e : Envelope α}
    (h : (s.step action).1.Carries e) : e.Exclusive := by
  cases action with
  | openChain table => cases h
  | call i link => cases h
  | compile i =>
      unfold Conversation.step at h
      dsimp only at h
      split at h <;> cases h
  | run i use =>
      unfold Conversation.step at h
      dsimp only at h
      split at h
      · next chain _ =>
          have hrun := exclusive_run s.client chain
          cases use with
          | execute => cases h; exact hrun
          | await => cases h; exact hrun
          | data => cases h
          | error => cases h
      · cases h
  | query sql params => cases h; exact exclusive_query _ _ _
  | health now => cases h
  | addHook hook => cases h
  | askLocally question =>
      cases question with
      | procedure now name params => cases h; exact exclusive_procedureCall _ _ _
      | signOut => cases h
      | _ => cases h; exact .inr rfl

/-- The envelopes that can be made: by hand, by a call of a client, from a text, and each from
another. A text that an envelope began with is told along. -/
inductive Made : Option Document → {α : Type} → Envelope α → Prop
  | ok {α : Type} (a : α) : Made none (ok a)
  | empty {α : Type} : Made none (empty : Envelope α)
  | err {α : Type} (e : EnvelopeError) : Made none (err e : Envelope α)
  | ofResult {α : Type} (r : Except Failure (Option α)) : Made none (ofResult r)
  | answered {σ α : Type} {s : Conversation σ} {action : Action} {e : Envelope α} :
      (s.step action).1.Carries e → Made none e
  | stored {α : Type} {text : String} {d : Document} {data : Decoder α} {e : Envelope α} :
      Document.ofText? text = some d → Decoder.run (decode data) d = some e → Made (some d) e
  | map {α β : Type} {source : Option Document} {e : Envelope α} (f : α → β) :
      Made source e → Made source (e.map f)

theorem Made.exclusive_iff {source : Option Document} {e : Envelope α} (h : Made source e) :
    e.Exclusive ↔ ∀ d ∈ source, ¬ Overfull d := by
  induction h with
  | ok a => simp [Exclusive, Envelope.ok]
  | empty => simp [Exclusive, Envelope.empty]
  | err e => simp [Exclusive, Envelope.err]
  | ofResult r => simp [exclusive_ofResult]
  | answered hcarries => simp [exclusive_of_carries _ _ hcarries]
  | stored _ hread => simp [exclusive_iff_of_decode hread]
  | map f _ ih => exact exclusive_map_iff.trans ih

theorem Exclusive.result_eq {e : Envelope α} (h : e.Exclusive) {a : α} (ha : e.data = some a) :
    e.result = .ok (some a) := by
  have hok : e.error = none := h.resolve_left (by rw [ha]; exact Option.some_ne_none a)
  rw [result, hok, ha]

/-- An envelope has data and an error at once only if it began with a text that fills both sides.
Every other envelope has at most one of the two, and its result is its data where it has any. -/
theorem exclusive_of_made {source : Option Document} {e : Envelope α} (h : Made source e) :
    (e.Exclusive ↔ ∀ d ∈ source, ¬ Overfull d) ∧
      ((∀ d ∈ source, ¬ Overfull d) → ∀ a, e.data = some a → e.result = .ok (some a)) := by
  refine ⟨h.exclusive_iff, ?_⟩
  intro hsource a ha
  exact (h.exclusive_iff.mpr hsource).result_eq ha

/-- A text with rows and a null for the error fills one side, also behind a map. -/
theorem exclusive_of_a_stored_task :
    let d := Document.object
      [(some "error", .null), (some "data", .array [.object [(some "id", .string (some "a"))]])]
    let e : Envelope RowData := ⟨some (.rows [[("id", .str "a")]]), none⟩
    Document.ofText? "\x7b\"error\":null,\"data\":[\x7b\"id\":\"a\"\x7d]\x7d" = some d ∧
      Decoder.run (decode RowData.decode) d = some e ∧ ¬ Overfull d ∧
      (e.map RowData.toRows).Exclusive ∧
      (e.map RowData.toRows).result = .ok (some [[("id", .str "a")]]) := by
  intro d e
  have htext : Document.ofText?
      "\x7b\"error\":null,\"data\":[\x7b\"id\":\"a\"\x7d]\x7d" = some d := by
    cbv
  have hread : Decoder.run (decode RowData.decode) d = some e := rfl
  have hone : ¬ Overfull d := (exclusive_iff_of_decode hread).mp (.inr rfl)
  have hsource : ∀ d' ∈ some d, ¬ Overfull d' := by
    intro d' hd'
    rwa [← Option.some.inj hd']
  have hmade : Made (some d) (e.map RowData.toRows) := .map RowData.toRows (.stored htext hread)
  obtain ⟨hiff, hresult⟩ := exclusive_of_made hmade
  exact ⟨htext, hread, hone, hiff.mpr hsource, hresult hsource _ rfl⟩

/-- A text that fills both sides is read with both, and the result drops the data. -/
theorem stored_text_fills_both_sides :
    let d := Document.object [(some "data", .array []), (some "error",
      .object [(some "code", .string (some "timeout")), (some "message", .string (some "slow"))])]
    let e : Envelope RowData := ⟨some (.rows []), some ⟨"timeout", "slow"⟩⟩
    Document.ofText? ("\x7b\"data\":[],\"error\":\x7b\"code\":\"timeout\"," ++
        "\"message\":\"slow\"\x7d\x7d") = some d ∧
      Decoder.run (decode RowData.decode) d = some e ∧ Made (some d) e ∧ ¬ e.Exclusive ∧
      e.result = .error ⟨"timeout", "slow"⟩ := by
  intro d e
  have htext : Document.ofText? ("\x7b\"data\":[],\"error\":\x7b\"code\":\"timeout\"," ++
      "\"message\":\"slow\"\x7d\x7d") = some d := by
    cbv
  have hread : Decoder.run (decode RowData.decode) d = some e := rfl
  refine ⟨htext, hread, .stored htext hread, ?_, rfl⟩
  rintro (hdata | herror)
  · cases hdata
  · cases herror

end Envelope

end SqlGateway
