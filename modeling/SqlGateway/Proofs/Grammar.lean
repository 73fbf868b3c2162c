import SqlGateway.Proofs.Name
import SqlGateway.Proofs.Text.Words

/-! The grammar of names and projections. The checks cut a text at its commas, blanks and points;
the grammar puts a text together from its pieces. Both describe the same texts. -/
namespace SqlGateway.Grammar

open Text

/-- `[A-Za-z_]`. -/
def Initial (c : Char) : Prop := ('A' ≤ c ∧ c ≤ 'Z') ∨ ('a' ≤ c ∧ c ≤ 'z') ∨ c = '_'

/-- `[A-Za-z0-9_]`. -/
def Following (c : Char) : Prop := Initial c ∨ ('0' ≤ c ∧ c ≤ '9')

def Name (cs : List Char) : Prop :=
  ∃ c rest, cs = c :: rest ∧ Initial c ∧ ∀ d ∈ rest, Following d

/-- `name` or `qualifier.name`. -/
inductive Reference : List Char → Prop
  | plain {name} : Name name → Reference name
  | qualified {qualifier name} : Name qualifier → Name name →
      Reference (qualifier ++ '.' :: name)

/-- `name`, `qualifier.name` or `qualifier.*`. -/
inductive Path : List Char → Prop
  | column {path} : Reference path → Path path
  | all {qualifier} : Name qualifier → Path (qualifier ++ ['.', '*'])

/-- The word `as` in any letter case. -/
def As (word : List Char) : Prop :=
  ∃ a s, word = [a, s] ∧ (a = 'a' ∨ a = 'A') ∧ (s = 's' ∨ s = 'S')

/-- White space, or nothing. -/
def Blank (cs : List Char) : Prop := ∀ c ∈ cs, isBlank c = true

/-- A path with white space around it, and perhaps another name for it. -/
inductive Item : List Char → Prop
  | plain {before path after} : Blank before → Path path → Blank after →
      Item (before ++ (path ++ after))
  | renamed {before path gap keyword gap' name after} : Blank before → Path path →
      Blank gap → gap ≠ [] → As keyword → Blank gap' → gap' ≠ [] → Name name → Blank after →
      Item (before ++ (path ++ (gap ++ (keyword ++ (gap' ++ (name ++ after))))))

/-- A star, or items with commas between them. -/
inductive Selection : List Char → Prop
  | everything : Selection ['*']
  | list {items} : items ≠ [] → (∀ item ∈ items, Item item) →
      Selection ([','].intercalate items)

/-! ### Names and paths -/

theorem isInitial_iff {c : Char} : Identifier.isInitial c = true ↔ Initial c := by
  simp [Identifier.isInitial, Initial, Char.isAlpha, Char.isUpper, Char.isLower, Char.le_def,
    or_assoc]

theorem isFollowing_iff {c : Char} : Identifier.isFollowing c = true ↔ Following c := by
  rw [Following, ← isInitial_iff]
  simp [Identifier.isFollowing, Identifier.isInitial, Char.isAlphanum, Char.isDigit, Char.le_def,
    or_right_comm]

theorem isSimple_iff {cs : List Char} : Identifier.isSimple cs = true ↔ Name cs := by
  cases cs with
  | nil => simp [Identifier.isSimple, Name]
  | cons c cs =>
      simp only [Identifier.isSimple, Bool.and_eq_true, List.all_eq_true, isInitial_iff,
        isFollowing_iff]
      constructor
      · rintro ⟨hc, hcs⟩
        exact ⟨c, cs, rfl, hc, hcs⟩
      · rintro ⟨c', cs', hcons, hc, hcs⟩
        obtain ⟨rfl, rfl⟩ := List.cons.inj hcons
        exact ⟨hc, hcs⟩

theorem notMem_of_name {cs : List Char} (h : Name cs) {c : Char}
    (hc : Identifier.isFollowing c = false) : c ∉ cs := by
  obtain ⟨d, rest, rfl, hd, hrest⟩ := h
  intro hmem
  have hfollowing : Identifier.isFollowing c = true := by
    obtain rfl | hmem := List.mem_cons.mp hmem
    · exact isFollowing_iff.mpr (.inl hd)
    · exact isFollowing_iff.mpr (hrest c hmem)
  rw [hc] at hfollowing
  cases hfollowing

theorem isPath_iff {cs : List Char} : Identifier.isPath cs = true ↔ Reference cs := by
  constructor
  · intro h
    have hjoin := intercalate_splitAt '.' cs
    unfold Identifier.isPath at h
    split at h
    · next name hsplit =>
        rw [hsplit, List.intercalate_singleton] at hjoin
        exact .plain (isSimple_iff.mp (hjoin ▸ h))
    · next qualifier name hsplit =>
        rw [hsplit, List.intercalate_cons_cons, List.intercalate_singleton] at hjoin
        rw [Bool.and_eq_true, isSimple_iff, isSimple_iff] at h
        rw [← hjoin, List.append_assoc]
        exact .qualified h.1 h.2
    · cases h
  · intro h
    cases h with
    | plain hname =>
        rw [Identifier.isPath, splitAt_of_notMem _ (notMem_of_name hname rfl)]
        exact isSimple_iff.mpr hname
    | @qualified qualifier name hqualifier hname =>
        have hsplit : splitAt '.' (qualifier ++ '.' :: name) = [qualifier, name] := by
          rw [splitAt_append_cons, splitAt_of_notMem _ (notMem_of_name hqualifier rfl),
            splitAt_of_notMem _ (notMem_of_name hname rfl), List.singleton_append]
        rw [Identifier.isPath, hsplit]
        exact Bool.and_eq_true_iff.mpr ⟨isSimple_iff.mpr hqualifier, isSimple_iff.mpr hname⟩

theorem isColumn_iff {cs : List Char} : Projection.isColumn cs = true ↔ Path cs := by
  constructor
  · intro h
    unfold Projection.isColumn at h
    split at h
    · next qualifier hreverse =>
        have hcs : cs = qualifier.reverse ++ ['.', '*'] := by
          simpa using congrArg List.reverse hreverse
        rw [hcs]
        exact .all (isSimple_iff.mp h)
    · exact .column (isPath_iff.mp h)
  · intro h
    cases h with
    | column hpath =>
        have hpath := isPath_iff.mpr hpath
        unfold Projection.isColumn
        split
        · next qualifier hreverse =>
            have hstar : '*' ∈ cs := by
              rw [← List.mem_reverse, hreverse]
              exact List.mem_cons_self
            exact absurd (Identifier.isNameChar_of_isPath hpath '*' hstar) (by decide)
        · exact hpath
    | all hqualifier =>
        simpa [Projection.isColumn] using isSimple_iff.mpr hqualifier

theorem toNat_toLower (c : Char) :
    c.toLower.toNat = if 65 ≤ c.toNat ∧ c.toNat ≤ 90 then c.toNat + 32 else c.toNat := by
  have hcapital : (c.val ≥ 'A'.val ∧ c.val ≤ 'Z'.val) ↔ 65 ≤ c.toNat ∧ c.toNat ≤ 90 := by
    rw [ge_iff_le, UInt32.le_iff_toNat_le, UInt32.le_iff_toNat_le]
    rfl
  unfold Char.toLower
  split
  · next h =>
      rw [if_pos (hcapital.mp h)]
      have hsum : (c.val + ('a'.val - 'A'.val)).toNat = (c.toNat + 32) % 2 ^ 32 :=
        UInt32.toNat_add _ _
      have hbounds := hcapital.mp h
      exact hsum.trans (Nat.mod_eq_of_lt (by omega))
  · next h => rw [if_neg (mt hcapital.mpr h)]

/-- A small letter is the lower case of itself and of its capital. -/
theorem toLower_eq_iff {c lower upper : Char} (hlower : lower.toNat ≤ 122)
    (hupper : 65 ≤ upper.toNat) (h : upper.toNat + 32 = lower.toNat) :
    c.toLower = lower ↔ c = lower ∨ c = upper := by
  rw [← Char.toNat_inj, ← Char.toNat_inj, ← Char.toNat_inj, toNat_toLower]
  split
  · omega
  · omega

theorem isAs_iff {word : List Char} : Projection.isAs word = true ↔ As word := by
  have ha : ∀ {c : Char}, c.toLower = 'a' ↔ c = 'a' ∨ c = 'A' :=
    toLower_eq_iff (by decide) (by decide) (by decide)
  have hs : ∀ {c : Char}, c.toLower = 's' ↔ c = 's' ∨ c = 'S' :=
    toLower_eq_iff (by decide) (by decide) (by decide)
  rw [Projection.isAs, beq_iff_eq]
  constructor
  · intro h
    obtain ⟨a, rest, rfl, hfirst, hrest⟩ := List.map_eq_cons_iff.mp h
    obtain ⟨s, rest, rfl, hsecond, hrest⟩ := List.map_eq_cons_iff.mp hrest
    rw [List.map_eq_nil_iff.mp hrest]
    exact ⟨a, s, rfl, ha.mp hfirst, hs.mp hsecond⟩
  · rintro ⟨a, s, rfl, hfirst, hsecond⟩
    rw [List.map_cons, List.map_cons, ha.mpr hfirst, hs.mpr hsecond, List.map_nil]

theorem isBlank_of_isWordChar {c : Char} (h : Projection.isWordChar c = true) :
    isBlank c = false := by
  simp only [Projection.isWordChar, Identifier.isNameChar, Bool.or_eq_true, isFollowing_iff,
    Following, Initial, beq_iff_eq, le_iff_toNat_le, ← Char.toNat_inj, Char.reduceToNat] at h
  rw [Bool.eq_false_iff]
  intro hblank
  have hrange := toNat_of_isBlank hblank
  omega

/-! ### Items and selections -/

theorem isWord_of_path {path : List Char} (h : Projection.isColumn path = true) :
    IsWord path := by
  refine ⟨?_, fun c hc => isBlank_of_isWordChar (Projection.isWordChar_of_isColumn h c hc)⟩
  rintro rfl
  cases h

theorem isWord_of_as {word : List Char} (h : Projection.isAs word = true) : IsWord word := by
  refine ⟨?_, fun c hc => isBlank_of_isWordChar (Projection.isWordChar_of_isAs h c hc)⟩
  rintro rfl
  cases h

theorem isWord_of_name {name : List Char} (h : Identifier.isSimple name = true) :
    IsWord name := by
  refine ⟨?_, fun c hc => isBlank_of_isWordChar ?_⟩
  · rintro rfl
    cases h
  · exact Projection.isWordChar_of_isNameChar (Identifier.isNameChar_of_isSimple h) c hc

theorem isEntry_words_iff {cs : List Char} :
    Projection.isEntry (words cs) = true ↔ Item cs := by
  constructor
  · intro h
    obtain ⟨path, hwords, hpath⟩ | ⟨path, keyword, name, hwords, has, hpath, hname⟩ :=
      Projection.isEntry_cases h
    · obtain ⟨before, after, rfl, hbefore, -, -, hafter⟩ := exists_of_words_eq_cons hwords
      exact .plain hbefore (isColumn_iff.mp hpath) (blank_of_words_eq_nil hafter)
    · obtain ⟨before, rest, rfl, hbefore, -, hends, hwords⟩ := exists_of_words_eq_cons hwords
      obtain ⟨gap, rest, rfl, hgap, hkeyword, hends', hwords⟩ := exists_of_words_eq_cons hwords
      obtain ⟨gap', after, rfl, hgap', hword, -, hafter⟩ := exists_of_words_eq_cons hwords
      refine .renamed hbefore (isColumn_iff.mp hpath) hgap ?_ (isAs_iff.mp has) hgap' ?_
        (isSimple_iff.mp hname) (blank_of_words_eq_nil hafter)
      · rintro rfl
        exact hkeyword.not_endsWord _ hends
      · rintro rfl
        exact hword.not_endsWord _ hends'
  · intro h
    cases h with
    | plain hbefore hpath hafter =>
        have hpath := isColumn_iff.mpr hpath
        have hends := EndsWord.blank_append hafter (.inr .nil)
        rw [List.append_nil] at hends
        rw [words_blank_append hbefore, words_append_word (isWord_of_path hpath) hends,
          words_of_blank hafter]
        exact hpath
    | renamed hbefore hpath hgap hne has hgap' hne' hname hafter =>
        have hpath := isColumn_iff.mpr hpath
        have has := isAs_iff.mpr has
        have hname := isSimple_iff.mpr hname
        have hends := EndsWord.blank_append hafter (.inr .nil)
        rw [List.append_nil] at hends
        rw [words_blank_append hbefore,
          words_append_word (isWord_of_path hpath) (.blank_append hgap (.inl hne)),
          words_blank_append hgap,
          words_append_word (isWord_of_as has) (.blank_append hgap' (.inl hne')),
          words_blank_append hgap', words_append_word (isWord_of_name hname) hends,
          words_of_blank hafter]
        simp only [Projection.isEntry, has, hpath, hname, Bool.and_self]

theorem comma_notMem {item : List Char} (h : Item item) : ',' ∉ item := by
  intro hmem
  obtain hblank | ⟨word, hword, hmem⟩ := blank_or_mem_word hmem
  · cases hblank
  · have hchar := Projection.isWordChar_of_isEntry (isEntry_words_iff.mpr h) word hword ',' hmem
    cases hchar

theorem acceptsChars_iff {cs : List Char} : Projection.acceptsChars cs = true ↔ Selection cs := by
  simp only [Projection.acceptsChars, Bool.or_eq_true, beq_iff_eq, List.all_eq_true,
    isEntry_words_iff]
  constructor
  · rintro (rfl | hitems)
    · exact .everything
    · have hlist := Selection.list (splitWhere_ne_nil _ cs) hitems
      rwa [← splitAt, intercalate_splitAt] at hlist
  · intro h
    cases h with
    | everything => exact .inl rfl
    | @list items hne hitems =>
        have hcommas : ∀ item ∈ items, ',' ∉ item := fun item h => comma_notMem (hitems item h)
        rw [splitAt_eq_splitOn, List.splitOn_intercalate _ hcommas hne]
        exact .inr hitems

/-- The checks accept the texts of the grammar and no others: a projection is a star or a list of
paths, each perhaps with another name, and a name may have a qualifier. -/
theorem accepts_iff_grammar :
    (∀ projection : String,
      Projection.accepts projection = true ↔ Selection projection.toList) ∧
    ∀ name : String, Identifier.accepts name = true ↔ Reference name.toList :=
  ⟨fun _ => acceptsChars_iff, fun _ => isPath_iff⟩

example : Projection.accepts "as AS as, t.*\u00a0aS all" = true := by decide

example : Projection.accepts "id, " = false := by decide

end SqlGateway.Grammar
