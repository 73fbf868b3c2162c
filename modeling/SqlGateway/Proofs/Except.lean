/-! Results that may be errors: where one of several steps gave the result or the error, and results
that are there exactly where a demand is met. -/
namespace SqlGateway

variable {ε ε' α β : Type}

theorem bind_eq_ok_iff {first : Except ε α} {next : α → Except ε β} {b : β} :
    (first >>= next) = .ok b ↔ ∃ a, first = .ok a ∧ next a = .ok b := by
  cases first with
  | error e => exact ⟨fun h => (nomatch h), fun ⟨_, h, _⟩ => (nomatch h)⟩
  | ok a => exact ⟨fun h => ⟨a, rfl, h⟩, fun ⟨_, h, hnext⟩ => Except.ok.inj h ▸ hnext⟩

theorem bind_eq_error_iff {first : Except ε α} {next : α → Except ε β} {e : ε} :
    (first >>= next) = .error e ↔ first = .error e ∨ ∃ a, first = .ok a ∧ next a = .error e := by
  cases first with
  | error e' =>
      exact ⟨fun h => .inl (congrArg _ (Except.error.inj h)),
        fun h => (h.resolve_right fun ⟨_, h, _⟩ => nomatch h) ▸ rfl⟩
  | ok a =>
      exact ⟨fun h => .inr ⟨a, rfl, h⟩, fun h =>
        (h.resolve_left fun h => nomatch h).elim fun _ ⟨h, hnext⟩ => Except.ok.inj h ▸ hnext⟩

/-- A check lets what comes behind it succeed, and adds nothing to it. -/
theorem bind_unit_eq_ok_iff {check : Except ε Unit} {next : Unit → Except ε α} {a : α} :
    (check >>= next) = .ok a ↔ check = .ok () ∧ next () = .ok a := by
  cases check with
  | error e => exact ⟨fun h => (nomatch h), fun h => (nomatch h.1)⟩
  | ok u => exact ⟨fun h => ⟨rfl, h⟩, fun h => h.2⟩

theorem ite_ok_eq_ok_iff {c : Prop} [Decidable c] {e : ε} :
    (if c then Except.ok () else .error e) = .ok () ↔ c := by
  by_cases h : c <;> simp [h]

theorem exists_of_toBool {result : Except ε α} (h : result.toBool = true) :
    ∃ a, result = .ok a := by
  cases result with
  | error e => cases h
  | ok a => exact ⟨a, rfl⟩

theorem mapError_eq_ok_iff {f : ε → ε'} {result : Except ε α} {a : α} :
    result.mapError f = .ok a ↔ result = .ok a := by
  cases result with
  | error e => exact ⟨fun h => (nomatch h), fun h => (nomatch h)⟩
  | ok a' => exact ⟨fun h => congrArg _ (Except.ok.inj h), fun h => congrArg _ (Except.ok.inj h)⟩

theorem mapError_eq_error_iff {f : ε → ε'} {result : Except ε α} {e' : ε'} :
    result.mapError f = .error e' ↔ ∃ e, result = .error e ∧ f e = e' := by
  cases result with
  | error e =>
      exact ⟨fun h => ⟨e, rfl, Except.error.inj h⟩,
        fun ⟨_, h, hf⟩ => Except.error.inj h ▸ congrArg _ hf⟩
  | ok a => exact ⟨fun h => (nomatch h), fun ⟨_, h, _⟩ => (nomatch h)⟩

/-- There is a result exactly where the demand is met, and the errors are exactly the faults. -/
structure Decides (result : Except ε α) (demand : Prop) (fault : ε → Prop) : Prop where
  ok_iff : (∃ a, result = .ok a) ↔ demand
  error_iff : ∀ e, result = .error e ↔ fault e

namespace Decides

variable {result : Except ε α} {demand demand' : Prop} {fault fault' : ε → Prop} {e : ε}

theorem congr (h : Decides result demand fault) (hdemand : demand ↔ demand')
    (hfault : ∀ e, fault e ↔ fault' e) : Decides result demand' fault' :=
  ⟨h.ok_iff.trans hdemand, fun e => (h.error_iff e).trans (hfault e)⟩

theorem ok (a : α) : Decides (.ok a : Except ε α) True fun _ => False := by
  constructor
  · exact ⟨fun _ => trivial, fun _ => ⟨a, rfl⟩⟩
  · intro e
    exact ⟨fun h => (nomatch h), False.elim⟩

theorem error (e : ε) : Decides (.error e : Except ε α) False fun e' => e = e' := by
  constructor
  · exact ⟨fun ⟨_, h⟩ => (nomatch h), False.elim⟩
  · intro e'
    exact ⟨Except.error.inj, congrArg _⟩

section

variable {p : Prop} [Decidable p]

theorem ite_ok (a : α) :
    Decides (if p then .ok a else .error e) p fun e' => ¬ p ∧ e = e' := by
  by_cases hp : p
  · rw [if_pos hp]
    apply (ok a).congr (iff_of_true trivial hp)
    intro e'
    exact ⟨False.elim, fun h => h.1 hp⟩
  · rw [if_neg hp]
    apply (error e).congr (iff_of_false id hp)
    intro e'
    exact ⟨fun h => ⟨hp, h⟩, fun h => h.2⟩

/-- A guard in front adds its own fault, and the others are looked for behind it. -/
theorem ite_error (h : Decides result demand fault) :
    Decides (if p then .error e else result) (¬ p ∧ demand)
      fun e' => p ∧ e = e' ∨ ¬ p ∧ fault e' := by
  by_cases hp : p
  · rw [if_pos hp]
    apply (error e).congr (iff_of_false id fun h => h.1 hp)
    intro e'
    exact ⟨fun h => .inl ⟨hp, h⟩, fun h => h.elim (fun h => h.2) fun h => absurd hp h.1⟩
  · rw [if_neg hp]
    apply h.congr ⟨fun h => ⟨hp, h⟩, fun h => h.2⟩
    intro e'
    exact ⟨fun h => .inr ⟨hp, h⟩, fun h => h.elim (fun h => absurd h.1 hp) fun h => h.2⟩

end

/-- The second step is only made where the first one has a result. -/
theorem bind {next : α → Except ε β} (h : Decides result demand fault)
    (hnext : ∀ a, Decides (next a) demand' fault') :
    Decides (result >>= next) (demand ∧ demand') fun e => fault e ∨ demand ∧ fault' e := by
  constructor
  · rw [← h.ok_iff]
    simp only [bind_eq_ok_iff]
    constructor
    · rintro ⟨b, a, ha, hb⟩
      exact ⟨⟨a, ha⟩, (hnext a).ok_iff.mp ⟨b, hb⟩⟩
    · rintro ⟨⟨a, ha⟩, hdemand⟩
      obtain ⟨b, hb⟩ := (hnext a).ok_iff.mpr hdemand
      exact ⟨b, a, ha, hb⟩
  · intro e
    rw [bind_eq_error_iff, ← h.ok_iff, h.error_iff]
    constructor
    · rintro (hfault | ⟨a, ha, he⟩)
      · exact .inl hfault
      · exact .inr ⟨⟨a, ha⟩, ((hnext a).error_iff e).mp he⟩
    · rintro (hfault | ⟨⟨a, ha⟩, hfault⟩)
      · exact .inl hfault
      · exact .inr ⟨a, ha, ((hnext a).error_iff e).mpr hfault⟩

theorem mapError (h : Decides result demand fault) (f : ε → ε') :
    Decides (result.mapError f) demand fun e' => ∃ e, fault e ∧ f e = e' := by
  constructor
  · simp only [mapError_eq_ok_iff]
    exact h.ok_iff
  · intro e'
    simp only [mapError_eq_error_iff, h.error_iff]

end Decides

end SqlGateway
