import SqlGateway.Text.Numeral

/-! Which texts are unsigned 64-bit numbers, and what is wrong with the others. The digits are read
from the left with the value of those before them, so the laws of reading hold for every value that
has been read so far, and for a number that value is zero. -/
namespace SqlGateway.Text

variable {value : Nat} {cs : List Char} {e : NumeralError}

/-- The value of digits behind others of the given value. -/
def valueFrom (value : Nat) (cs : List Char) : Nat :=
  cs.foldl (fun value c => value * 10 + digitValue c) value

theorem valueFrom_cons (value : Nat) (c : Char) (cs : List Char) :
    valueFrom value (c :: cs) = valueFrom (value * 10 + digitValue c) cs := by
  rw [valueFrom, List.foldl_cons, valueFrom]

theorem le_valueFrom (value : Nat) (cs : List Char) : value ≤ valueFrom value cs := by
  induction cs generalizing value with
  | nil => exact Nat.le_refl value
  | cons c cs ih =>
      rw [valueFrom_cons]
      have hrest := ih (value * 10 + digitValue c)
      omega

theorem readDigits_eq_ok_iff (hvalue : value < UInt64.size) {n : Nat} :
    readDigits value cs = .ok n ↔
      (∀ c ∈ cs, c.isDigit = true) ∧ valueFrom value cs = n ∧ n < UInt64.size := by
  induction cs generalizing value with
  | nil =>
      rw [readDigits, Except.ok.injEq, valueFrom, List.foldl_nil]
      exact ⟨fun h => ⟨List.forall_mem_nil _, h, h ▸ hvalue⟩, fun h => h.2.1⟩
  | cons c cs ih =>
      rw [readDigits, List.forall_mem_cons, valueFrom_cons]
      by_cases hdigit : c.isDigit = true
      · by_cases hsmall : value * 10 + digitValue c < UInt64.size
        · rw [if_pos hdigit, if_pos hsmall, ih hsmall]
          simp only [hdigit, true_and]
        · -- the value does not fall again
          have hle := le_valueFrom (value * 10 + digitValue c) cs
          rw [if_pos hdigit, if_neg hsmall]
          refine ⟨fun h => (nomatch h), fun ⟨_, hn, hlt⟩ => ?_⟩
          omega
      · rw [if_neg hdigit]
        exact ⟨fun h => (nomatch h), fun h => absurd h.1.1 hdigit⟩

/-- The first thing from the left that is wrong with digits: a character that is none, or so many
of them that their value has no place in 64 bits. -/
inductive Misread (value : Nat) (cs : List Char) : NumeralError → Prop
  | badDigit {digits : List Char} {c : Char} {rest : List Char} : cs = digits ++ c :: rest →
      (∀ d ∈ digits, d.isDigit = true) → valueFrom value digits < UInt64.size →
      c.isDigit = false → Misread value cs .badDigit
  | tooLarge {digits rest : List Char} : cs = digits ++ rest →
      (∀ d ∈ digits, d.isDigit = true) → UInt64.size ≤ valueFrom value digits →
      Misread value cs .tooLarge

theorem not_misread_nil (hvalue : value < UInt64.size) : ¬ Misread value [] e := by
  intro h
  cases h with
  | badDigit hsplit => simp at hsplit
  | tooLarge hsplit _ hlarge =>
      obtain rfl := (List.append_eq_nil_iff.mp hsplit.symm).1
      exact absurd hvalue (Nat.not_lt.mpr hlarge)

section

variable {c : Char}

theorem misread_cons_of_not_isDigit (hvalue : value < UInt64.size) (hc : c.isDigit = false) :
    Misread value (c :: cs) e ↔ e = .badDigit := by
  constructor
  · intro h
    cases h with
    | badDigit => rfl
    | @tooLarge digits _ hsplit hdigits hlarge =>
        cases digits with
        | nil => exact absurd hvalue (Nat.not_lt.mpr hlarge)
        | cons d digits =>
            obtain ⟨rfl, -⟩ := List.cons.inj hsplit
            have hd := hdigits c List.mem_cons_self
            rw [hc] at hd
            cases hd
  · rintro rfl
    have hnone : ∀ d ∈ ([] : List Char), d.isDigit = true := List.forall_mem_nil _
    exact .badDigit rfl hnone hvalue hc

theorem misread_cons_of_large (hc : c.isDigit = true)
    (hlarge : UInt64.size ≤ value * 10 + digitValue c) :
    Misread value (c :: cs) e ↔ e = .tooLarge := by
  constructor
  · intro h
    cases h with
    | tooLarge => rfl
    | @badDigit digits _ _ hsplit _ hsmall hbad =>
        cases digits with
        | nil =>
            obtain ⟨rfl, -⟩ := List.cons.inj hsplit
            rw [hc] at hbad
            cases hbad
        | cons d digits =>
            obtain ⟨rfl, -⟩ := List.cons.inj hsplit
            rw [valueFrom_cons] at hsmall
            have hle := le_valueFrom (value * 10 + digitValue c) digits
            omega
  · rintro rfl
    have hone : ∀ d ∈ [c], d.isDigit = true := List.forall_mem_singleton.mpr hc
    exact .tooLarge rfl hone hlarge

theorem misread_cons_of_small (hvalue : value < UInt64.size) (hc : c.isDigit = true) :
    Misread value (c :: cs) e ↔ Misread (value * 10 + digitValue c) cs e := by
  constructor
  · intro h
    cases h with
    | @badDigit digits _ _ hsplit hdigits hsmall hbad =>
        cases digits with
        | nil =>
            obtain ⟨rfl, -⟩ := List.cons.inj hsplit
            rw [hc] at hbad
            cases hbad
        | cons d digits =>
            obtain ⟨rfl, hrest⟩ := List.cons.inj hsplit
            exact .badDigit hrest (List.forall_mem_cons.mp hdigits).2 hsmall hbad
    | @tooLarge digits _ hsplit hdigits hlarge =>
        cases digits with
        | nil => exact absurd hvalue (Nat.not_lt.mpr hlarge)
        | cons d digits =>
            obtain ⟨rfl, hrest⟩ := List.cons.inj hsplit
            exact .tooLarge hrest (List.forall_mem_cons.mp hdigits).2 hlarge
  · intro h
    cases h with
    | @badDigit digits _ _ hsplit hdigits hsmall hbad =>
        have hall : ∀ d ∈ c :: digits, d.isDigit = true := List.forall_mem_cons.mpr ⟨hc, hdigits⟩
        exact .badDigit (congrArg (c :: ·) hsplit) hall hsmall hbad
    | @tooLarge digits _ hsplit hdigits hlarge =>
        have hall : ∀ d ∈ c :: digits, d.isDigit = true := List.forall_mem_cons.mpr ⟨hc, hdigits⟩
        exact .tooLarge (congrArg (c :: ·) hsplit) hall hlarge

end

theorem readDigits_eq_error_iff (hvalue : value < UInt64.size) :
    readDigits value cs = .error e ↔ Misread value cs e := by
  induction cs generalizing value with
  | nil => exact ⟨fun h => (nomatch h), fun h => absurd h (not_misread_nil hvalue)⟩
  | cons c cs ih =>
      rw [readDigits]
      by_cases hdigit : c.isDigit = true
      · by_cases hsmall : value * 10 + digitValue c < UInt64.size
        · rw [if_pos hdigit, if_pos hsmall, ih hsmall, misread_cons_of_small hvalue hdigit]
        · rw [if_pos hdigit, if_neg hsmall,
            misread_cons_of_large hdigit (Nat.not_lt.mp hsmall)]
          exact ⟨fun h => (Except.error.inj h).symm, fun h => congrArg _ h.symm⟩
      · rw [if_neg hdigit, misread_cons_of_not_isDigit hvalue (Bool.eq_false_iff.mpr hdigit)]
        exact ⟨fun h => (Except.error.inj h).symm, fun h => congrArg _ h.symm⟩

/-! ### Numbers with a sign or without -/

/-- What stands behind the sign, if there is one. -/
def unsigned : List Char → List Char
  | '+' :: cs => cs
  | cs => cs

/-- At least one digit, behind a plus sign or not, and the number that the digits stand for. -/
structure Spells (cs : List Char) (n : UInt64) : Prop where
  nonempty : unsigned cs ≠ []
  digits : ∀ c ∈ unsigned cs, c.isDigit = true
  value : natOfDigits (unsigned cs) = n.toNat

/-- Why characters are no number: there are none, there is only a sign, or something is wrong with
the digits. -/
inductive Misspells : List Char → NumeralError → Prop
  | empty : Misspells [] .empty
  | sign : Misspells ['+'] .badDigit
  | digits {cs : List Char} {e : NumeralError} : Misread 0 (unsigned cs) e → Misspells cs e

theorem readNumeral_eq_readDigits (h : unsigned cs ≠ []) :
    readNumeral cs = readDigits 0 (unsigned cs) := by
  fun_cases readNumeral cs with
  | case1 => exact absurd rfl h
  | case2 => exact absurd rfl h
  | case3 => rfl
  | case4 => rw [unsigned]; assumption

theorem eq_nil_or_sign_of_unsigned_eq_nil (h : unsigned cs = []) : cs = [] ∨ cs = ['+'] := by
  unfold unsigned at h
  split at h
  · exact .inr (congrArg _ h)
  · exact .inl h

/-- Where nothing stands behind the sign there is one fault, which tells whether there is a sign. -/
theorem readUInt64_of_unsigned_eq_nil {s : String} (h : unsigned s.toList = []) :
    ∃ e, readUInt64 s = .error e ∧ ∀ e', Misspells s.toList e' ↔ e' = e := by
  rw [readUInt64]
  obtain hs | hs := eq_nil_or_sign_of_unsigned_eq_nil h
  · rw [hs]
    refine ⟨.empty, rfl, fun e' => ⟨fun he => ?_, fun he => he ▸ .empty⟩⟩
    cases he with
    | empty => rfl
    | digits he => exact absurd he (not_misread_nil (by decide))
  · rw [hs]
    refine ⟨.badDigit, rfl, fun e' => ⟨fun he => ?_, fun he => he ▸ .sign⟩⟩
    cases he with
    | sign => rfl
    | digits he => exact absurd he (not_misread_nil (by decide))

theorem readUInt64_eq_ok_iff {s : String} {n : UInt64} :
    readUInt64 s = .ok n ↔ Spells s.toList n := by
  by_cases hempty : unsigned s.toList = []
  · obtain ⟨e, he, -⟩ := readUInt64_of_unsigned_eq_nil hempty
    rw [he]
    exact ⟨fun h => (nomatch h), fun h => absurd hempty h.nonempty⟩
  · rw [readUInt64, readNumeral_eq_readDigits hempty]
    constructor
    · intro h
      cases hread : readDigits 0 (unsigned s.toList) with
      | error e =>
          rw [hread] at h
          cases h
      | ok value =>
          rw [hread] at h
          obtain rfl := Except.ok.inj h
          obtain ⟨hdigits, hvalue, hlt⟩ := (readDigits_eq_ok_iff (by decide)).mp hread
          exact ⟨hempty, hdigits, hvalue.trans (UInt64.toNat_ofNat_of_lt' hlt).symm⟩
    · intro h
      rw [(readDigits_eq_ok_iff (by decide)).mpr ⟨h.digits, h.value, n.toNat_lt⟩]
      exact congrArg Except.ok UInt64.ofNat_toNat

theorem readUInt64_eq_error_iff {s : String} :
    readUInt64 s = .error e ↔ Misspells s.toList e := by
  by_cases hempty : unsigned s.toList = []
  · obtain ⟨e', he, hall⟩ := readUInt64_of_unsigned_eq_nil hempty
    rw [he, hall]
    exact ⟨fun h => (Except.error.inj h).symm, fun h => congrArg _ h.symm⟩
  · have hdigits : Misspells s.toList e ↔ Misread 0 (unsigned s.toList) e := by
      refine ⟨fun h => ?_, .digits⟩
      generalize hcs : s.toList = cs at h hempty
      cases h with
      | empty => exact absurd rfl hempty
      | sign => exact absurd rfl hempty
      | digits h => exact h
    rw [hdigits, ← readDigits_eq_error_iff (by decide), readUInt64,
      readNumeral_eq_readDigits hempty]
    cases readDigits 0 (unsigned s.toList) with
    | error e' => simp only [Except.map, Except.error.injEq]
    | ok value => exact ⟨fun h => (nomatch h), fun h => (nomatch h)⟩

end SqlGateway.Text
