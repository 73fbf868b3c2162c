import SqlGateway.Proofs.Grammar
import SqlGateway.Proofs.Query.Clauses
import SqlGateway.Proofs.Statement.Placeholders
import SqlGateway.Proofs.Text.Numbers

/-! The numbers of rows in the text of a selection. Names and projections may hold the words `LIMIT`
and `OFFSET`, but no word of theirs starts with a digit. The numbers right behind these words are
therefore those of the two clauses. -/
namespace SqlGateway

open Text

/-! ### Texts without numbers -/

namespace Grammar

theorem isDigit_of_initial {c : Char} (h : Initial c) : c.isDigit = false := by
  rw [Bool.eq_false_iff]
  intro hdigit
  simp only [Initial, le_iff_toNat_le, ← Char.toNat_inj, Char.reduceToNat] at h
  simp only [Char.isDigit_iff_toNat, Char.reduceToNat] at hdigit
  omega

theorem numberFree_name {name : List Char} (h : Name name) : numberFree true name = true := by
  have hsolid := (isWord_of_name (isSimple_iff.mpr h)).solid
  obtain ⟨c, rest, rfl, hc, -⟩ := h
  rw [List.forall_mem_cons] at hsolid
  rw [numberFree, isDigit_of_initial hc, hsolid.1, numberFree_of_solid hsolid.2]
  rfl

theorem numberFree_reference {path : List Char} (h : Reference path) :
    numberFree true path = true := by
  cases h with
  | plain hname => exact numberFree_name hname
  | qualified hqualifier hname =>
      have hpoint : numberFree true ['.'] = true := rfl
      exact numberFree_append (numberFree_name hqualifier)
        (numberFree_append hpoint (numberFree_name hname))

theorem numberFree_path {path : List Char} (h : Path path) : numberFree true path = true := by
  cases h with
  | column hpath => exact numberFree_reference hpath
  | all hqualifier => exact numberFree_append (numberFree_name hqualifier) rfl

theorem numberFree_as {word : List Char} (h : As word) : numberFree true word = true := by
  obtain ⟨a, s, rfl, rfl | rfl, rfl | rfl⟩ := h <;> rfl

theorem numberFree_item {item : List Char} (h : Item item) : numberFree true item = true := by
  cases h with
  | plain hbefore hpath hafter =>
      exact numberFree_append (numberFree_of_blank hbefore)
        (numberFree_append (numberFree_path hpath) (numberFree_of_blank hafter))
  | renamed hbefore hpath hgap _ has hgap' _ hname hafter =>
      have hrename := numberFree_append (numberFree_as has) (numberFree_append
        (numberFree_of_blank hgap') (numberFree_append (numberFree_name hname)
          (numberFree_of_blank hafter)))
      exact numberFree_append (numberFree_of_blank hbefore) (numberFree_append
        (numberFree_path hpath) (numberFree_append (numberFree_of_blank hgap) hrename))

theorem numberFree_items {items : List (List Char)} (h : ∀ item ∈ items, Item item) :
    numberFree true ([','].intercalate items) = true := by
  induction items with
  | nil => rfl
  | cons item items ih =>
      rw [List.forall_mem_cons] at h
      cases items with
      | nil =>
          rw [List.intercalate_singleton]
          exact numberFree_item h.1
      | cons next items =>
          rw [List.intercalate_cons_cons]
          exact numberFree_append (numberFree_append (numberFree_item h.1) rfl) (ih h.2)

theorem numberFree_selection {projection : List Char} (h : Selection projection) :
    numberFree true projection = true := by
  cases h with
  | everything => rfl
  | list _ hitems => exact numberFree_items hitems

end Grammar

namespace Fragment

/-- No word of the fragment's own text starts with a digit. -/
def NumberFree : Fragment → Prop
  | text s => numberFree true s.toList = true
  | bind _ => True

theorem numberFree_written {fs : List Fragment} (h : ∀ f ∈ fs, NumberFree f) (bound : Nat) :
    numberFree true (written bound fs) = true := by
  induction fs generalizing bound with
  | nil => rfl
  | cons f fs ih =>
      rw [List.forall_mem_cons] at h
      cases f with
      | text s => exact numberFree_append h.1 (ih h.2 bound)
      | bind v =>
          -- the digits of a placeholder go on behind its dollar sign
          have hdigits : numberFree false (Nat.toDigits 10 (bound + 1)) = true :=
            numberFree_of_solid fun c hc => isBlank_of_isDigit (isDigit_of_mem_decimal c hc)
          exact numberFree_append hdigits (ih h.2 (bound + 1))

theorem NumberFree.name {name : String} (h : Identifier.accepts name = true) :
    NumberFree (.text name) := Grammar.numberFree_reference (Grammar.isPath_iff.mp h)

end Fragment

namespace Query

open Fragment

theorem forall_mem_separate {P : Fragment → Prop} {separator : String}
    (hs : P (.text separator)) {parts : List (List Fragment)}
    (h : ∀ part ∈ parts, ∀ f ∈ part, P f) : ∀ f ∈ separate separator parts, P f := by
  induction parts with
  | nil => exact List.forall_mem_nil _
  | cons part parts ih =>
      rw [List.forall_mem_cons] at h
      cases parts with
      | nil =>
          rw [separate_singleton]
          exact h.1
      | cons next parts =>
          rw [separate_cons_cons, List.forall_mem_append, List.forall_mem_cons]
          exact ⟨h.1, hs, ih h.2⟩

theorem numberFree_filterFragments {f : Filter} (h : Identifier.accepts f.column = true) :
    ∀ x ∈ filterFragments f, NumberFree x := by
  have hcolumn := NumberFree.name h
  cases f with
  | compare column comparison v =>
      have hsign : NumberFree (.text comparison.sql) := by cases comparison <;> rfl
      have hspace : NumberFree (.text " ") := rfl
      simp only [filterFragments, List.forall_mem_cons]
      exact ⟨hcolumn, hspace, hsign, hspace, trivial, List.forall_mem_nil _⟩
  | among column vs =>
      cases vs with
      | nil => exact List.forall_mem_singleton.mpr rfl
      | cons v vs =>
          have hvalues : ∀ x ∈ bindList (v :: vs), NumberFree x := by
            have hcomma : NumberFree (.text ", ") := rfl
            refine forall_mem_separate hcomma ?_
            simp only [List.forall_mem_map]
            exact fun _ _ => List.forall_mem_singleton.mpr trivial
          simp only [filterFragments, List.forall_mem_cons, List.forall_mem_append]
          exact ⟨hcolumn, rfl, hvalues, rfl, List.forall_mem_nil _⟩

theorem numberFree_whereClause {q : Query}
    (h : ∀ f ∈ q.filters, Identifier.accepts f.column = true) :
    ∀ x ∈ q.whereClause, NumberFree x := by
  unfold whereClause
  split
  · exact List.forall_mem_nil _
  · rw [List.forall_mem_cons]
    have hand : NumberFree (.text " AND ") := rfl
    refine ⟨rfl, forall_mem_separate hand ?_⟩
    simp only [List.forall_mem_map]
    exact fun f hf => numberFree_filterFragments (h f hf)

theorem numberFree_orderClause {q : Query}
    (h : ∀ entry ∈ q.order, Identifier.accepts entry.1 = true) :
    ∀ x ∈ q.orderClause, NumberFree x := by
  unfold orderClause
  split
  · exact List.forall_mem_nil _
  · next column direction horder =>
      have hword : NumberFree (.text direction.sql) := by cases direction <;> rfl
      simp only [List.forall_mem_cons]
      exact ⟨rfl, .name (h _ horder), rfl, hword, List.forall_mem_nil _⟩

/-- What a selection writes in front of its numbers of rows. -/
def selectHead (q : Query) : List Fragment :=
  [.text "SELECT ", .text q.projection, .text " FROM ", .text q.table] ++ q.whereClause ++
    q.orderClause

theorem numberFree_selectHead {q : Query} (h : q.Accepted .select) :
    ∀ x ∈ q.selectHead, NumberFree x := by
  have hselect : q.Selectable := h.allows
  have hprojection : NumberFree (.text q.projection) :=
    Grammar.numberFree_selection (Grammar.acceptsChars_iff.mp hselect.projection)
  have htable : ∀ x ∈ [.text "SELECT ", .text q.projection, .text " FROM ", .text q.table],
      NumberFree x := by
    simp only [List.forall_mem_cons]
    exact ⟨rfl, hprojection, rfl, .name h.table, List.forall_mem_nil _⟩
  rw [selectHead, List.forall_mem_append, List.forall_mem_append]
  exact ⟨⟨htable, numberFree_whereClause h.columns⟩, numberFree_orderClause hselect.order⟩

/-! ### The clauses that count rows -/

/-- The words of a clause that counts rows. -/
def countWords (word : String) (count : Option UInt64) : List (List Char) :=
  count.toList.flatMap fun n => [word.toList, Nat.toDigits 10 n.toNat]

theorem isWord_decimal (n : Nat) : IsWord (Nat.toDigits 10 n) := by
  refine ⟨?_, fun c hc => isBlank_of_isDigit (isDigit_of_mem_decimal c hc)⟩
  exact List.ne_nil_of_length_pos Nat.length_toDigits_pos

theorem isNumber_decimal (n : Nat) : isNumber (Nat.toDigits 10 n) = true := by
  have hne := (isWord_decimal n).nonempty
  rw [isNumber, List.all_eq_true.mpr isDigit_of_mem_decimal, Bool.and_true,
    List.isEmpty_eq_false_iff.mpr hne, Bool.not_false]

theorem words_rowCountClause {keyword word : String} (hword : IsWord word.toList)
    (hkeyword : keyword.toList = ' ' :: (word.toList ++ [' '])) (count : Option UInt64)
    (bound : Nat) (a : List Char) :
    words (a ++ written bound (rowCountClause keyword count)) =
      words a ++ countWords word count := by
  have hblank : isBlank ' ' = true := rfl
  cases count with
  | none => simp [rowCountClause, written, countWords]
  | some n =>
      have htext : written bound (rowCountClause keyword (some n)) =
          ' ' :: (word.toList ++ ' ' :: Nat.toDigits 10 n.toNat) := by
        simp [rowCountClause, written, hkeyword]
      rw [htext, words_append_cons hblank, words_append_cons hblank, words_of_isWord hword,
        words_of_isWord (isWord_decimal _)]
      rfl

theorem behind_countWords {keyword word : String} (hkeyword : isNumber keyword.toList = false)
    (count : Option UInt64) (vs : List (List Char)) :
    behind keyword.toList (countWords word count ++ vs) =
      (if word = keyword then count.toList.map UInt64.toNat else []) ++
        behind keyword.toList vs := by
  cases count with
  | none => simp [countWords]
  | some n =>
      have hdigits : Nat.toDigits 10 n.toNat ≠ keyword.toList := by
        intro heq
        rw [← heq, isNumber_decimal] at hkeyword
        cases hkeyword
      have hcount : countWords word (some n) ++ vs =
          word.toList :: Nat.toDigits 10 n.toNat :: vs := rfl
      rw [hcount, behind, behind, if_neg hdigits, leading, if_pos (isNumber_decimal _),
        natOfDigits_toDigits, List.nil_append]
      simp only [String.toList_inj]
      rfl

theorem words_fragments_select (q : Query) : words (written 0 (q.fragments .select)) =
    words (written 0 q.selectHead) ++
      (countWords "LIMIT" q.effectiveLimit ++ countWords "OFFSET" q.effectiveOffset) := by
  have hlimit : IsWord "LIMIT".toList := Grammar.isWord_of_name (by decide)
  have hoffset : IsWord "OFFSET".toList := Grammar.isWord_of_name (by decide)
  have hlimit' : " LIMIT ".toList = ' ' :: ("LIMIT".toList ++ [' ']) := by decide
  have hoffset' : " OFFSET ".toList = ' ' :: ("OFFSET".toList ++ [' ']) := by decide
  have hfragments : q.fragments .select = q.selectHead ++
      rowCountClause " LIMIT " q.effectiveLimit ++ rowCountClause " OFFSET " q.effectiveOffset :=
    rfl
  rw [hfragments, written_append, written_append, words_rowCountClause hoffset hoffset',
    words_rowCountClause hlimit hlimit', List.append_assoc]

/-- The numbers right behind the words `LIMIT` and `OFFSET` are those of the window, each where
it is written. -/
theorem numbersAfter_of_select {q : Query} {s : Statement} (h : q.compile .select = .ok s) :
    numbersAfter "LIMIT" s.sql = q.effectiveLimit.toList.map UInt64.toNat ∧
      numbersAfter "OFFSET" s.sql = q.effectiveOffset.toList.map UInt64.toNat := by
  obtain ⟨haccepted, rfl⟩ := compile_eq_ok_iff.mp h
  have hhead := isNumber_of_numberFree (numberFree_written (numberFree_selectHead haccepted) 0)
  have hcounts : leading (countWords "LIMIT" q.effectiveLimit ++
      countWords "OFFSET" q.effectiveOffset) = [] := by
    cases q.effectiveLimit with
    | none => cases q.effectiveOffset <;> rfl
    | some n => rfl
  have hsql : ∀ keyword : String, isNumber keyword.toList = false →
      numbersAfter keyword (Statement.mk Operation.select.command (q.fragments .select)).sql =
        (if "LIMIT" = keyword then q.effectiveLimit.toList.map UInt64.toNat else []) ++
          (if "OFFSET" = keyword then q.effectiveOffset.toList.map UInt64.toNat else []) := by
    intro keyword hkeyword
    rw [numbersAfter, Statement.toList_sql, words_fragments_select, behind_append hhead hcounts,
      behind_countWords hkeyword, ← List.append_nil (countWords "OFFSET" _),
      behind_countWords hkeyword, behind, List.append_nil]
  constructor
  · simpa using hsql "LIMIT" (by decide)
  · simpa using hsql "OFFSET" (by decide)

end Query

end SqlGateway
