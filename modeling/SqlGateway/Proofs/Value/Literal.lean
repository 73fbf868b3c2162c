import SqlGateway.Proofs.Value.Reader

/-! Literals read back. Whatever quotes, brackets and casts the texts of a value hold, a reader of
SQL takes its literal from the front of a text and tells where it ends. What it cannot tell apart is
written alike: integers and doubles with the same decimal text, and the doubles that are not finite
and the texts of their names. -/
namespace SqlGateway

open Text (Follows)

namespace Value

mutual

/-- What is read of a value that is written as a literal. -/
def content : Value → Literal
  | null => .null
  | boolean b => .boolean b
  | integer n => .number (toString n.toInt)
  | float x => if x.isFinite then .number (floatLayout.text x) else .text (nonFiniteName x)
  | text s => .text s
  | array items => .array (contents items)
  | json j => .json j.text

def contents : List Value → List Literal
  | [] => []
  | v :: rest => content v :: contents rest

end

theorem contents_eq_map (items : List Value) : contents items = items.map content := by
  induction items with
  | nil => rfl
  | cons v rest ih => rw [contents, ih, List.map_cons]

theorem literals_eq_map (items : List Value) : literals items = items.map literal := by
  induction items with
  | nil => rfl
  | cons v rest ih => rw [literals, ih, List.map_cons]

/-- Induction on a value, through the items of arrays. -/
@[elab_as_elim]
theorem nested_induction {motive : Value → Prop} (null : motive .null)
    (boolean : ∀ b, motive (.boolean b)) (integer : ∀ n, motive (.integer n))
    (float : ∀ x, motive (.float x)) (text : ∀ s, motive (.text s))
    (array : ∀ items, (∀ v ∈ items, motive v) → motive (.array items))
    (json : ∀ j, motive (.json j)) : ∀ v, motive v
  | .null => null
  | .boolean b => boolean b
  | .integer n => integer n
  | .float x => float x
  | .text s => text s
  | .array items => array items fun v _ =>
      nested_induction null boolean integer float text array json v
  | .json j => json j

end Value

namespace Literal

/-- The literal of a value is read, whatever may stand behind a literal. -/
def ReadsAt (depth : Nat) (v : Value) : Prop :=
  ∀ rest, Follows ends rest →
    readWithin depth (v.literal.toList ++ rest) = some (v.content, rest)

/-- What stands between the brackets of an array. -/
def separated (items : List Value) : List Char :=
  ", ".toList.intercalate (items.map fun v => v.literal.toList)

theorem toList_array (items : List Value) :
    (Value.array items).literal.toList = "ARRAY".toList ++ '[' :: (separated items ++ [']']) := by
  rw [Value.literal, String.toList_append, String.toList_append, String.toList_intercalate,
    Value.literals_eq_map, List.map_map]
  rfl

theorem separated_cons_cons (v w : Value) (items : List Value) :
    separated (v :: w :: items) = v.literal.toList ++ ',' :: ' ' :: separated (w :: items) := by
  rw [separated, List.map_cons, List.map_cons, List.intercalate_cons_cons, List.append_assoc]
  rfl

theorem separated_singleton (v : Value) : separated [v] = v.literal.toList :=
  List.intercalate_singleton

/-- The items are shorter than the array that holds them, so the depth that does for it does for
each of them. -/
theorem readItems_separated {depth : Nat} {items : List Value} (hne : items ≠ [])
    (hreads : ∀ v ∈ items, v.literal.toList.length < depth → ReadsAt depth v) {count : Nat}
    (hdepth : (separated items).length < depth) (hcount : (separated items).length < count) :
    readItems (readWithin depth) count (separated items ++ ']' :: rest) =
      some (items.map Value.content, rest) := by
  induction items generalizing count with
  | nil => exact absurd rfl hne
  | cons v items ih =>
      rw [List.forall_mem_cons] at hreads
      obtain ⟨count, rfl⟩ := Nat.exists_eq_add_one.mpr (Nat.zero_lt_of_lt hcount)
      rw [readItems]
      cases items with
      | nil =>
          rw [separated_singleton] at hdepth ⊢
          have hbracket : Follows ends (']' :: rest) :=
            Follows.of_mem (show "]" ∈ ends by decide) rest
          rw [hreads.1 hdepth _ hbracket]
          rfl
      | cons w items =>
          rw [separated_cons_cons, List.length_append, List.length_cons, List.length_cons]
            at hdepth hcount
          have hcomma : Follows ends (',' :: ' ' :: (separated (w :: items) ++ ']' :: rest)) :=
            Follows.of_mem (show "," ∈ ends by decide) _
          have hread := hreads.1 (by omega) _ hcomma
          have hrest := @ih (List.cons_ne_nil _ _) hreads.2 count (by omega) (by omega)
          rw [separated_cons_cons, List.append_assoc, List.cons_append, List.cons_append, hread]
          simp only [hrest, Option.map_some, List.map_cons]

theorem readWithin_bracket (depth : Nat) (cs : List Char) : readWithin depth (']' :: cs) = none := by
  cases depth with
  | zero => rfl
  | succ depth => rw [readWithin_plain depth rfl]; rfl

theorem readBracketed_of_head {read : List Char → Option (Literal × List Char)} {cs : List Char}
    (h : ∀ rest, cs ≠ ']' :: rest) : readBracketed read ('[' :: cs) = readItems read cs.length cs := by
  unfold readBracketed
  split
  · next heq => exact absurd (List.cons.inj heq).2 (h _)
  · next heq => rw [(List.cons.inj heq).2]
  · next hcons => exact absurd rfl (hcons cs)

theorem readBracketed_separated {depth : Nat} {items : List Value}
    (hreads : ∀ v ∈ items, v.literal.toList.length < depth → ReadsAt depth v)
    (hdepth : (separated items).length < depth) :
    readBracketed (readWithin depth) ('[' :: (separated items ++ ']' :: rest)) =
      some (items.map Value.content, rest) := by
  cases items with
  | nil => rfl
  | cons v items =>
      have hcount : (separated (v :: items)).length <
          (separated (v :: items) ++ ']' :: rest).length := by
        rw [List.length_append, List.length_cons]
        omega
      have hitems := @readItems_separated rest _ _ (List.cons_ne_nil v items) hreads _ hdepth hcount
      rw [readBracketed_of_head, hitems]
      -- an item that starts with the bracket would not have been read
      intro behind hbehind
      rw [hbehind, List.length_cons, readItems, readWithin_bracket] at hitems
      cases hitems

theorem readsAt {depth : Nat} {v : Value} (h : v.literal.toList.length < depth) :
    ReadsAt depth v := by
  obtain ⟨depth, rfl⟩ := Nat.exists_eq_add_one.mpr (Nat.zero_lt_of_lt h)
  intro rest hrest
  induction v using Value.nested_induction generalizing depth rest with
  | null => exact readWithin_keyword depth "NULL" rfl rfl hrest
  | boolean b =>
      cases b with
      | false => exact readWithin_keyword depth "FALSE" rfl rfl hrest
      | true => exact readWithin_keyword depth "TRUE" rfl rfl hrest
  | integer n =>
      rw [Value.literal, Value.content]
      exact readWithin_int depth n.toInt hrest
  | float x =>
      rw [Value.literal, Value.content]
      by_cases hfinite : x.isFinite = true
      · rw [if_pos hfinite, if_pos hfinite]
        exact readWithin_float depth x hrest
      · rw [if_neg hfinite, if_neg hfinite]
        exact readWithin_text depth _ hrest
  | text s =>
      rw [Value.literal, Value.content]
      exact readWithin_text depth s hrest
  | array items ih =>
      -- the word and the brackets are longer than the step in depth
      rw [toList_array, List.length_append, List.length_cons, List.length_append] at h
      rw [toList_array, Value.content, Value.contents_eq_map, List.append_assoc, List.cons_append,
        List.append_assoc, List.singleton_append]
      rw [readWithin_word depth rfl (.cons rfl _), if_neg (by decide), if_pos rfl,
        readBracketed_separated, Option.map_some]
      · intro v hv hdepth
        obtain ⟨d, rfl⟩ := Nat.exists_eq_add_one.mpr (Nat.zero_lt_of_lt hdepth)
        intro rest hrest
        exact ih v hv d hdepth rest hrest
      · omega
  | json j => exact readWithin_json depth j.text rest

end Literal

namespace Value

open Literal (ends)

/-- The decimal text of a number. -/
def decimal? : Value → Option String
  | integer n => some (toString n.toInt)
  | float x => if x.isFinite then some (floatLayout.text x) else none
  | _ => none

/-- The text that is quoted: a double that is not finite has a name. -/
def text? : Value → Option String
  | float x => if x.isFinite then none else some (nonFiniteName x)
  | text s => some s
  | _ => none

/-- The values differ at most in what a literal does not tell: whether a number is an integer or a
double, and whether the name of a double that is not finite is a text. -/
inductive Alike : Value → Value → Prop
  | null : Alike .null .null
  | boolean (b : Bool) : Alike (.boolean b) (.boolean b)
  | number {v w : Value} {decimal : String} : v.decimal? = some decimal →
      w.decimal? = some decimal → Alike v w
  | text {v w : Value} {s : String} : v.text? = some s → w.text? = some s → Alike v w
  | array {items others : List Value} : List.Forall₂ Alike items others →
      Alike (.array items) (.array others)
  | json {j k : Json} : j.text = k.text → Alike (.json j) (.json k)

/-- The values of which the literal can be read. -/
def Shows (v : Value) : Literal → Prop
  | .null => v = .null
  | .boolean b => v = .boolean b
  | .number decimal => v.decimal? = some decimal
  | .text s => v.text? = some s
  | .json s => ∃ j, v = .json j ∧ j.text = s
  | .array ls => ∃ items, v = .array items ∧ items.map content = ls

theorem shows_content (v : Value) : v.Shows v.content := by
  cases v with
  | null => rfl
  | boolean b => rfl
  | integer n => rfl
  | float x =>
      rw [content]
      by_cases hfinite : x.isFinite = true
      · rw [if_pos hfinite]
        exact if_pos hfinite
      · rw [if_neg hfinite]
        exact if_neg hfinite
  | text s => rfl
  | array items => exact ⟨items, rfl, (contents_eq_map items).symm⟩
  | json j => exact ⟨j, rfl, rfl⟩

theorem forall₂_alike {items others : List Value}
    (ih : ∀ v ∈ items, ∀ w : Value, w.content = v.content → Alike v w)
    (h : others.map content = items.map content) : List.Forall₂ Alike items others := by
  induction items generalizing others with
  | nil => rw [List.map_eq_nil_iff.mp h]; exact .nil
  | cons v items ih' =>
      rw [List.forall_mem_cons] at ih
      obtain ⟨w, others, rfl, hw, hothers⟩ := List.map_eq_cons_iff.mp h
      exact .cons (ih.1 w hw) (ih' ih.2 hothers)

theorem alike_of_shows {v w : Value} (h : w.Shows v.content) : Alike v w := by
  induction v using nested_induction generalizing w with
  | null => cases h; exact .null
  | boolean b => cases h; exact .boolean b
  | integer n => exact .number rfl h
  | float x =>
      have hx := shows_content (.float x)
      rw [content] at hx h
      by_cases hfinite : x.isFinite = true
      · rw [if_pos hfinite] at hx h
        exact .number hx h
      · rw [if_neg hfinite] at hx h
        exact .text hx h
  | text s => exact .text rfl h
  | array items ih =>
      obtain ⟨others, rfl, hothers⟩ := h
      rw [contents_eq_map] at hothers
      exact .array (forall₂_alike (fun v hv w hw => ih v hv (hw ▸ w.shows_content)) hothers)
  | json j =>
      obtain ⟨k, rfl, hk⟩ := h
      exact .json hk.symm

theorem literal_of_decimal? {v : Value} {decimal : String} (h : v.decimal? = some decimal) :
    v.literal = decimal := by
  cases v with
  | integer n => exact Option.some_inj.mp h
  | float x =>
      obtain ⟨hfinite, hdecimal⟩ := Option.ite_none_right_eq_some.mp h
      rw [literal, if_pos hfinite, Option.some_inj.mp hdecimal]
  | null | boolean | text | array | json => cases h

theorem literal_of_text? {v : Value} {s : String} (h : v.text? = some s) :
    v.literal = quote s := by
  cases v with
  | float x =>
      obtain ⟨hfinite, hname⟩ := Option.ite_none_left_eq_some.mp h
      rw [literal, if_neg hfinite, Option.some_inj.mp hname]
  | text t => rw [literal, Option.some_inj.mp h]
  | null | boolean | integer | array | json => cases h

theorem Alike.literal_eq_or_array {v w : Value} (h : Alike v w) :
    v.literal = w.literal ∨ ∃ items others, v = .array items ∧ w = .array others ∧
      List.Forall₂ Alike items others := by
  cases h with
  | null | boolean => exact .inl rfl
  | number hv hw => exact .inl ((literal_of_decimal? hv).trans (literal_of_decimal? hw).symm)
  | text hv hw => exact .inl ((literal_of_text? hv).trans (literal_of_text? hw).symm)
  | array hitems => exact .inr ⟨_, _, rfl, rfl, hitems⟩
  | json hj => exact .inl (by rw [literal, literal, hj])

theorem map_literal_eq {items others : List Value}
    (ih : ∀ v ∈ items, ∀ w, Alike v w → v.literal = w.literal)
    (h : List.Forall₂ Alike items others) : items.map literal = others.map literal := by
  induction h with
  | nil => rfl
  | cons hv _ ih' =>
      rw [List.forall_mem_cons] at ih
      rw [List.map_cons, List.map_cons, ih.1 _ hv, ih' ih.2]

theorem Alike.literal_eq {v w : Value} (h : Alike v w) : v.literal = w.literal := by
  induction v using nested_induction generalizing w with
  | array items ih =>
      obtain heq | ⟨_, others, ⟨⟩, rfl, hitems⟩ := h.literal_eq_or_array
      · exact heq
      · rw [literal, literal, literals_eq_map, literals_eq_map,
          map_literal_eq (fun v hv w => ih v hv) hitems]
  | _ =>
      obtain heq | ⟨_, _, ⟨⟩, _⟩ := h.literal_eq_or_array
      exact heq

end Value

namespace Literal

/-- A literal is taken from the front of a text as a whole and nothing more of the text with it,
and what has been read of it is all that the value holds but for what literals write alike. -/
theorem read_literal_append (v : Value) (rest : List Char) (h : Follows ends rest) :
    read (v.literal.toList ++ rest) = some (v.content, rest) ∧
      ∀ (w : Value) (behind : List Char), Follows ends behind →
        (w.literal.toList ++ behind = v.literal.toList ++ rest ↔ behind = rest ∧ v.Alike w) := by
  have hread : ∀ (w : Value) (behind : List Char), Follows ends behind →
      read (w.literal.toList ++ behind) = some (w.content, behind) := by
    intro w behind hbehind
    have hdepth : w.literal.toList.length < (w.literal.toList ++ behind).length + 1 := by
      rw [List.length_append]
      omega
    exact readsAt hdepth behind hbehind
  refine ⟨hread v rest h, fun w behind hbehind => ⟨fun heq => ?_, ?_⟩⟩
  · have hboth := hread w behind hbehind
    rw [heq, hread v rest h, Option.some_inj, Prod.mk.injEq] at hboth
    exact ⟨hboth.2.symm, Value.alike_of_shows (hboth.1 ▸ w.shows_content)⟩
  · rintro ⟨rfl, halike⟩
    rw [halike.literal_eq]

/-- Quotes, brackets and casts in the texts of an array, and in JSON beside them. -/
theorem read_array_append :
    let v : Value := .array [.text "it's, ']::jsonb", .json (.obj [("a'", .arr [.str "]"])]),
      .array [], .integer (-5), .null]
    let rest := ") x".toList
    Follows ends rest ∧
      v.literal = "ARRAY['it''s, '']::jsonb', '\x7b\"a''\":[\"]\"]\x7d'::jsonb, ARRAY[], -5, NULL]" ∧
      read (v.literal.toList ++ rest) = some (.array [.text "it's, ']::jsonb",
        .json "\x7b\"a'\":[\"]\"]\x7d", .array [], .number "-5", .null], rest) ∧
      ∀ (w : Value) (behind : List Char), Follows ends behind →
        (w.literal.toList ++ behind = v.literal.toList ++ rest ↔ behind = rest ∧ v.Alike w) := by
  have h : Follows ends ") x".toList := Follows.of_mem (show ")" ∈ ends by decide) " x".toList
  exact ⟨h, rfl, read_literal_append _ _ h⟩

end Literal

end SqlGateway
