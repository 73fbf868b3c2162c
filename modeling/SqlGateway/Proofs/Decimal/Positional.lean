import Mathlib.Data.List.Basic
import SqlGateway.Decimal.Layout

/-! The characters of a double that is written without an exponent. Whichever digits are found for
it, its text is some digits, at most a sign in front of them and a point among them. -/
namespace SqlGateway.Decimal

/-- A digit or the point. -/
def isPositional (c : Char) : Bool := c.isDigit || c == '.'

theorem isDigit_ofNat (n : Nat) (exponent : Int) :
    ∀ c ∈ (Scientific.ofNat n exponent).digits, c.isDigit = true := by
  intro c hc
  have hmem : c ∈ Nat.toDigits 10 n :=
    List.mem_reverse.mp ((List.dropWhile_sublist _).subset (List.mem_reverse.mp hc))
  exact Nat.isDigit_of_mem_toDigits (by decide) (by decide) hmem

theorem isDigit_shortest (tie : Tie) (x : Dyadic) :
    ∀ c ∈ (x.shortest tie).digits, c.isDigit = true := by
  unfold Dyadic.shortest
  generalize hfound : List.findSome? _ _ = found
  cases found with
  | none => exact isDigit_ofNat _ _
  | some s =>
      obtain ⟨n, -, hn⟩ := List.exists_of_findSome?_eq_some hfound
      obtain ⟨m, -, rfl⟩ := Option.map_eq_some_iff.mp hn
      exact isDigit_ofNat _ _

theorem isDigit_zeros (n : Int) : ∀ c ∈ zeros n, c.isDigit = true := by
  intro c hc
  rw [List.eq_of_mem_replicate hc]
  rfl

theorem isPositional_of_isDigit {cs : List Char} (h : ∀ c ∈ cs, c.isDigit = true) :
    ∀ c ∈ cs, isPositional c = true :=
  fun c hc => by rw [isPositional, h c hc, Bool.true_or]

theorem isPositional_plain (layout : Layout) {s : Scientific}
    (h : ∀ c ∈ s.digits, c.isDigit = true) : ∀ c ∈ layout.plain s, isPositional c = true := by
  have hpoint : isPositional '.' = true := rfl
  have hzero : isPositional '0' = true := rfl
  have hzeros := fun n => isPositional_of_isDigit (isDigit_zeros n)
  have hdigits := isPositional_of_isDigit h
  have htail : ∀ c ∈ (if layout.pointZero then ['.', '0'] else []), isPositional c = true := by
    split
    · exact List.forall_mem_cons.mpr ⟨hpoint, List.forall_mem_singleton.mpr hzero⟩
    · exact List.forall_mem_nil _
  unfold Layout.plain
  by_cases hsmall : s.exponent < 0
  · rw [if_pos hsmall, List.forall_mem_cons, List.forall_mem_cons, List.forall_mem_append]
    exact ⟨hzero, hpoint, hzeros _, hdigits⟩
  · rw [if_neg hsmall]
    by_cases hwhole : s.digits.length ≤ (s.exponent + 1).toNat
    · rw [if_pos hwhole, List.forall_mem_append, List.forall_mem_append]
      exact ⟨⟨hdigits, hzeros _⟩, htail⟩
    · rw [if_neg hwhole, List.forall_mem_append, List.forall_mem_cons]
      exact ⟨fun c hc => hdigits c (List.mem_of_mem_take hc), hpoint,
        fun c hc => hdigits c (List.mem_of_mem_drop hc)⟩

theorem plain_ne_nil (layout : Layout) (s : Scientific) : layout.plain s ≠ [] := by
  unfold Layout.plain
  by_cases hsmall : s.exponent < 0
  · rw [if_pos hsmall]
    exact List.cons_ne_nil _ _
  · rw [if_neg hsmall]
    by_cases hwhole : s.digits.length ≤ (s.exponent + 1).toNat
    · rw [if_pos hwhole]
      intro hnil
      have hcount := congrArg List.length (List.append_eq_nil_iff.mp hnil).1
      rw [List.length_append, zeros, List.length_replicate, List.length_nil] at hcount
      omega
    · rw [if_neg hwhole]
      exact List.append_ne_nil_of_right_ne_nil _ (List.cons_ne_nil _ _)

/-- A double without an exponent is a sign or none, and digits with a point or none. -/
theorem text_of_positional {layout : Layout} (h : ∀ e, layout.positional e = true) (x : Float) :
    ∃ sign digits, (layout.text x).toList = sign ++ digits ∧ (sign = [] ∨ sign = ['-']) ∧
      digits ≠ [] ∧ ∀ c ∈ digits, isPositional c = true := by
  have hunsigned : ∀ s, layout.unsigned s = layout.plain s := fun s => if_pos (h _)
  simp only [Layout.text, String.toList_ofList, hunsigned]
  refine ⟨_, _, rfl, ?_, plain_ne_nil _ _, isPositional_plain _ ?_⟩
  · split
    · exact .inr rfl
    · exact .inl rfl
  · split
    · exact List.forall_mem_singleton.mpr rfl
    · exact isDigit_shortest _ _

end SqlGateway.Decimal
