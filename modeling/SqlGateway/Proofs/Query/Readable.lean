import Mathlib.Data.List.Forall2
import SqlGateway.Proofs.Name
import SqlGateway.Proofs.Query.Clauses
import SqlGateway.Proofs.Statement.Placeholders

/-! Fragments that can be read back. What is read is told by the text alone, as long as the text
goes on with one of a few words; a list of such pieces and an optional clause are read the same
way. Nothing is read out of the bound values: their numbers are all that the text has of them. -/
namespace SqlGateway.Query

open Fragment Text

variable {α : Type}

/-- Two texts that start with a name, end it, and are equal have the same name. -/
theorem name_cancel {name other : String} {x y : List Char}
    (hname : Identifier.accepts name = true) (hother : Identifier.accepts other = true)
    (hx : Stops Identifier.isNameChar x) (hy : Stops Identifier.isNameChar y)
    (h : name.toList ++ x = other.toList ++ y) : name = other ∧ x = y := by
  obtain ⟨hnames, hrest⟩ := append_cancel_run (Identifier.isNameChar_of_accepts hname)
    (Identifier.isNameChar_of_accepts hother) hx hy h
  exact ⟨String.toList_inj.mp hnames, hrest⟩

/-- The text of a part, followed by one of the words, tells the part up to `alike`, and where the
part ends. -/
def Readable (part : α → List Fragment) (words : List String) (ok : α → Prop)
    (alike : α → α → Prop) : Prop :=
  ∀ ⦃bound a b x y⦄, ok a → ok b → Follows words x → Follows words y →
    written bound (part a) ++ x = written bound (part b) ++ y → alike a b ∧ x = y

/-- A text in one class of characters, which the words end, is read as far as the class goes. -/
theorem readable_run {p : Char → Bool} {text : α → String} {words : List String} {ok : α → Prop}
    (hrun : ∀ a, ok a → ∀ c ∈ (text a).toList, p c = true) (hinj : Function.Injective text)
    (hwords : Ends p words) : Readable (fun a => [.text (text a)]) words ok (· = ·) := by
  intro bound a b x y ha hb hx hy h
  simp only [written, List.append_nil] at h
  obtain ⟨htext, hxy⟩ :=
    append_cancel_run (hrun a ha) (hrun b hb) (hx.stops hwords) (hy.stops hwords) h
  exact ⟨hinj (String.toList_inj.mp htext), hxy⟩

theorem readable_name {words : List String} (hwords : Ends Identifier.isNameChar words) :
    Readable (fun name : String => [.text name]) words (Identifier.accepts · = true) (· = ·) :=
  readable_run (fun _ h => Identifier.isNameChar_of_accepts h) (fun _ _ h => h) hwords

theorem readable_count {words : List String} (hwords : Ends Char.isDigit words) :
    Readable (fun n : UInt64 => [.text (toString n.toNat)]) words (fun _ => True) (· = ·) := by
  refine readable_run (p := Char.isDigit) ?_ ?_ hwords
  · intro n _ c hc
    rw [Nat.toString_eq_repr, Nat.toList_repr] at hc
    exact isDigit_of_mem_decimal c hc
  · intro n m h
    simp only [Nat.toString_eq_repr] at h
    exact UInt64.toNat_inj.mp (Nat.repr_injective h)

/-- Both values have the same number, so nothing is learned but where it ends. -/
theorem readable_value {words : List String} :
    Readable (fun v : Value => [.bind v]) words (fun _ => True) (fun _ _ => True) := by
  intro bound v w x y _ _ _ _ h
  exact ⟨trivial, List.append_cancel_left h⟩

/-- Lists of parts with a separator between them, for parts that agree in how many values they
bind where they are read alike. -/
theorem Readable.separate {part : α → List Fragment} {separator : String} {words : List String}
    {ok : α → Prop} {alike : α → α → Prop}
    (hpart : Readable part (separator :: words) ok alike) (hs : Apart separator words)
    (hcount : ∀ ⦃a b⦄, alike a b → (values (part a)).length = (values (part b)).length) :
    Readable (fun list : List α => separate separator (list.map part)) words
      (fun list => list ≠ [] ∧ ∀ a ∈ list, ok a) (List.Forall₂ alike) := by
  intro bound as
  induction as generalizing bound with
  | nil => exact fun _ _ _ h => absurd rfl h.1
  | cons a as ih =>
      rintro bs x y ⟨-, has⟩ ⟨hne, hbs⟩ hx hy h
      cases bs with
      | nil => exact absurd rfl hne
      | cons b bs =>
          rw [List.forall_mem_cons] at has hbs
          have follows : ∀ {z : List Char}, Follows words z →
              Follows (separator :: words) z := fun hz => hz.mono (List.subset_cons_self _ _)
          have separated : ∀ z, Follows (separator :: words) (separator.toList ++ z) :=
            Follows.of_mem List.mem_cons_self
          cases as with
          | nil =>
              cases bs with
              | nil =>
                  obtain ⟨hab, hxy⟩ :=
                    hpart has.1 hbs.1 (follows hx) (follows hy) (by simpa using h)
                  exact ⟨.cons hab .nil, hxy⟩
              | cons b' bs =>
                  -- the second list goes on with a separator, which cannot follow the first
                  simp only [List.map_cons, List.map_nil, separate_singleton, separate_cons_cons,
                    written_append, written, List.append_assoc] at h
                  obtain ⟨-, rfl⟩ := hpart has.1 hbs.1 (follows hx) (separated _) h
                  exact (hx.not_append hs).elim
          | cons a' as =>
              cases bs with
              | nil =>
                  simp only [List.map_cons, List.map_nil, separate_singleton, separate_cons_cons,
                    written_append, written, List.append_assoc] at h
                  obtain ⟨-, rfl⟩ := hpart has.1 hbs.1 (separated _) (follows hy) h
                  exact (hy.not_append hs).elim
              | cons b' bs =>
                  simp only [List.map_cons, separate_cons_cons, written_append, written,
                    List.append_assoc] at h
                  obtain ⟨hab, hrest⟩ := hpart has.1 hbs.1 (separated _) (separated _) h
                  rw [hcount hab] at hrest
                  obtain ⟨hlist, hxy⟩ := ih ⟨List.cons_ne_nil _ _, has.2⟩
                    ⟨List.cons_ne_nil _ _, hbs.2⟩ hx hy (List.append_cancel_left hrest)
                  exact ⟨.cons hab hlist, hxy⟩

/-- A clause that a keyword opens, or nothing. -/
def clause (keyword : String) (body : α → List Fragment) : Option α → List Fragment
  | none => []
  | some a => .text keyword :: body a

theorem Readable.clause {keyword : String} {body : α → List Fragment} {words : List String}
    {ok : α → Prop} {alike : α → α → Prop} (hbody : Readable body words ok alike)
    (hk : Apart keyword words) :
    Readable (clause keyword body) words (fun o => ∀ a ∈ o, ok a) (Option.Rel alike) := by
  intro bound a b x y ha hb hx hy h
  cases a with
  | none =>
      cases b with
      | none => exact ⟨.none, h⟩
      | some b =>
          simp only [Query.clause, written, List.nil_append, List.append_assoc] at h
          rw [h] at hx
          exact (hx.not_append hk).elim
  | some a =>
      cases b with
      | none =>
          simp only [Query.clause, written, List.nil_append, List.append_assoc] at h
          rw [← h] at hy
          exact (hy.not_append hk).elim
      | some b =>
          simp only [Query.clause, written, List.append_assoc] at h
          obtain ⟨hab, hxy⟩ := hbody (ha a rfl) (hb b rfl) hx hy (List.append_cancel_left h)
          exact ⟨.some hab, hxy⟩

theorem follows_clause (keyword : String) (body : α → List Fragment) (o : Option α) (bound : Nat)
    {words : List String} {x : List Char} (hx : Follows words x) :
    Follows (keyword :: words) (written bound (clause keyword body o) ++ x) := by
  cases o with
  | none => exact hx.mono (List.subset_cons_self _ _)
  | some a =>
      rw [clause, written, List.append_assoc]
      exact .of_mem List.mem_cons_self _

end SqlGateway.Query
