import SqlGateway.Proofs.Http.Failure

/-! The message of a failure, told by what its body holds under two names. The two members are read
together: each text is the message in its turn as long as the other member is missing, null or a
text, and a member of any other kind leaves only the phrase of the status. -/
namespace SqlGateway

open Json (Document Decoder)
open Json.Decoder (Stated Nullable)
open QueryResponse (IsText text_eq_some_iff)

namespace FailureReport

variable {members : List (Option String × Document)} {name : String} {content : Option Document}

/-- What an object holds under a name that it does not use twice. -/
def Holds (members : List (Option String × Document)) (name : String) :
    Option Document → Prop :=
  Stated members name none fun d content => content = some d

def text? : Option Document → Option String
  | some (.string s) => s
  | _ => none

/-- A member that is there and is neither null nor a text. A string with half of a surrogate pair
in it is no text. -/
structure Odd (content : Option Document) : Prop where
  given : content ≠ none
  notNull : content ≠ some .null
  notText : text? content = none

/-- Every name in the object is a text, without half of a surrogate pair in it. -/
def Named (members : List (Option String × Document)) : Prop :=
  ∀ member ∈ members, member.1 ≠ none

theorem nullable_isText_iff {d : Document} {text : Option String} :
    Nullable IsText d text ↔ ¬ Odd (some d) ∧ text? (some d) = text := by
  have hodd : Odd (some d) ↔ d ≠ .null ∧ text? (some d) = none :=
    ⟨fun h => ⟨fun hd => h.notNull (congrArg some hd), h.notText⟩,
      fun h => ⟨Option.some_ne_none d, fun hd => h.1 (Option.some.inj hd), h.2⟩⟩
  rw [hodd]
  cases text with
  | none => cases d <;> simp [Nullable, text?]
  | some s => cases d <;> simp +contextual [Nullable, IsText, text?]

theorem mem_of_filter_eq {d : Document}
    (h : members.filter (·.1 == some name) = [(some name, d)]) : (some name, d) ∈ members := by
  have hmem : (some name, d) ∈ members.filter (·.1 == some name) := by
    rw [h]
    exact List.mem_singleton_self _
  exact (List.mem_filter.mp hmem).1

/-- A member is read exactly where it is not odd, as the text that it is. -/
theorem Holds.stated_iff (h : Holds members name content) {text : Option String} :
    Stated members name none (Nullable IsText) text ↔ ¬ Odd content ∧ text? content = text := by
  cases h with
  | missing habsent =>
      constructor
      · intro hstated
        cases hstated with
        | missing => exact ⟨fun hodd => hodd.given rfl, rfl⟩
        | given hd _ => exact absurd (mem_of_filter_eq hd) (habsent _)
      · rintro ⟨-, rfl⟩
        exact .missing habsent
  | given hd hcontent =>
      rw [hcontent, ← nullable_isText_iff]
      constructor
      · intro hstated
        cases hstated with
        | missing habsent => exact absurd (mem_of_filter_eq hd) (habsent _)
        | given hd' hread =>
            rw [hd] at hd'
            cases hd'
            exact hread
      · exact .given hd

/-- Both members of a report that is read from an object are stated by it. -/
theorem stated_of_run_decode {report : FailureReport}
    (h : Decoder.run decode (.object members) = some report) :
    Stated members "error" none (Nullable IsText) report.error ∧
      Stated members "details" none (Nullable IsText) report.details := by
  obtain ⟨slots, hslots, hbuild⟩ := Option.bind_eq_some_iff.mp h
  obtain ⟨-, hmembers⟩ := Decoder.slots?_object_eq_some_iff.mp hslots
  obtain ⟨first, _, hfirst, hrest, rfl⟩ := List.forall₂_cons_left_iff.mp hmembers
  obtain ⟨second, _, hsecond, hnil, rfl⟩ := List.forall₂_cons_left_iff.mp hrest
  obtain rfl := List.forall₂_nil_left_iff.mp hnil
  obtain ⟨error, herror, hbuild⟩ := Option.bind_eq_some_iff.mp hbuild
  obtain ⟨details, hdetails, hbuild⟩ := Option.bind_eq_some_iff.mp hbuild
  cases hbuild
  exact ⟨(Decoder.stated_iff fun _ _ => text_eq_some_iff).mp ⟨first, hfirst, herror⟩,
    (Decoder.stated_iff fun _ _ => text_eq_some_iff).mp ⟨second, hsecond, hdetails⟩⟩

theorem Named.exists_eq_map (h : Named members) :
    ∃ named : List (String × Document),
      members = named.map fun member => (some member.1, member.2) := by
  induction members with
  | nil => exact ⟨[], rfl⟩
  | cons member rest ih =>
      rw [Named, List.forall_mem_cons] at h
      obtain ⟨first, hfirst⟩ := Option.ne_none_iff_exists'.mp h.1
      obtain ⟨named, rfl⟩ := ih h.2
      refine ⟨(first, member.2) :: named, ?_⟩
      rw [List.map_cons, ← hfirst]

end FailureReport

namespace Http

open FailureReport

namespace Response

variable {r : Response} {body : List UInt8} {members : List (Option String × Document)}
  {error details : Option Document}

theorem refused_of_not_named (hread : Document.ofBytes? body = some (.object members))
    (h : ¬ Named members) : Refused body := by
  rw [Named, not_forall] at h
  obtain ⟨member, hmember⟩ := h
  rw [Classical.not_imp, Classical.not_not] at hmember
  exact refused_of_nameless hread ⟨member, hmember⟩

theorem refused_of_odd (hread : Document.ofBytes? body = some (.object members))
    (herror : Holds members "error" error) (hdetails : Holds members "details" details)
    (h : Odd error ∨ Odd details) : Refused body := by
  rw [Refused, hread, Option.bind_some, Option.eq_none_iff_forall_ne_some]
  intro report hreport
  obtain ⟨herror', hdetails'⟩ := stated_of_run_decode hreport
  rcases h with h | h
  · exact (herror.stated_iff.mp herror').1 h
  · exact (hdetails.stated_iff.mp hdetails').1 h

theorem reports_of_not_odd (hread : Document.ofBytes? body = some (.object members))
    (hnamed : Named members) (herror : Holds members "error" error)
    (hdetails : Holds members "details" details) (herror' : ¬ Odd error)
    (hdetails' : ¬ Odd details) : Reports body (text? error) (text? details) := by
  obtain ⟨named, rfl⟩ := hnamed.exists_eq_map
  exact ⟨_, hread, named, rfl, herror.stated_iff.mpr ⟨herror', rfl⟩,
    hdetails.stated_iff.mpr ⟨hdetails', rfl⟩⟩

end Response

/-- The message of a failure whose body is an object. It is the text of the details as long as the
error is not odd, and else the text of the error as long as the details are not odd. Where neither
is a text it is the phrase of the status, and it is the phrase as well where one of them is odd or a
name in the object is no text. -/
theorem message_unless_odd {r : Response} (hstatus : isSuccess r.status = false)
    {body : List UInt8} (hbody : r.wholeBody = .ok body)
    {members : List (Option String × Document)}
    (hread : Document.ofBytes? body = some (.object members)) {error details : Option Document}
    (herror : Holds members "error" error) (hdetails : Holds members "details" details) :
    (∀ text, text? details = some text → ¬ Odd error → Named members →
      ∃ message, Shown text message ∧ r.Fails (.backend r.status message)) ∧
    (∀ text, text? details = none → text? error = some text → ¬ Odd details → Named members →
      ∃ message, Shown text message ∧ r.Fails (.backend r.status message)) ∧
    (text? details = none → text? error = none → r.Fails (.backend r.status (phrase r.status))) ∧
    (Odd error ∨ Odd details ∨ ¬ Named members →
      r.Fails (.backend r.status (phrase r.status))) := by
  have hphrase : Odd error ∨ Odd details ∨ ¬ Named members →
      r.Fails (.backend r.status (phrase r.status)) := by
    intro h
    have hrefused : Response.Refused body := by
      rcases h with h | h | h
      · exact Response.refused_of_odd hread herror hdetails (.inl h)
      · exact Response.refused_of_odd hread herror hdetails (.inr h)
      · exact Response.refused_of_not_named hread h
    exact Response.fails_of_refused hstatus hbody hrefused
  have hmessage : ¬ Odd error → ¬ Odd details → Named members → r.Fails (.backend r.status
      (Failure.truncate (((text? details).or (text? error)).getD (phrase r.status)))) := by
    intro herror' hdetails' hnamed
    have hreports := Response.reports_of_not_odd hread hnamed herror hdetails herror' hdetails'
    exact Response.fails_of_reports hstatus hbody hreports
  refine ⟨?_, ?_, ?_, hphrase⟩
  · intro text htext herror' hnamed
    have hdetails' : ¬ Odd details := fun h => Option.some_ne_none text (htext ▸ h.notText)
    have hshown := hmessage herror' hdetails' hnamed
    rw [htext] at hshown
    exact ⟨_, shown_truncate text, hshown⟩
  · intro text hnone htext hdetails' hnamed
    have herror' : ¬ Odd error := fun h => Option.some_ne_none text (htext ▸ h.notText)
    have hshown := hmessage herror' hdetails' hnamed
    rw [hnone, htext] at hshown
    exact ⟨_, shown_truncate text, hshown⟩
  · intro hnone hnone'
    by_cases h : Odd error ∨ Odd details ∨ ¬ Named members
    · exact hphrase h
    · rw [not_or, not_or, Classical.not_not] at h
      have hshown := hmessage h.1 h.2.1 h.2.2
      rw [hnone, hnone'] at hshown
      have hkept := truncate_of_length_le (length_phrase_le r.status)
      exact hkept ▸ hshown

theorem message_beside_null :
    let r : Response := ⟨500,
      "\x7b\"details\":null,\"error\":\"no such table\"\x7d".toUTF8.toList, false⟩
    isSuccess r.status = false ∧ ¬ Odd (some .null) ∧
      r.Fails (.backend 500 "no such table") := by
  intro r
  have hread : Document.ofText? "\x7b\"details\":null,\"error\":\"no such table\"\x7d" =
      some (.object [(some "details", .null), (some "error", .string (some "no such table"))]) := by
    cbv
  have hnull : ¬ Odd (some .null) := fun h => h.notNull rfl
  have hstatus : isSuccess r.status = false := rfl
  obtain ⟨-, herror, -⟩ := message_unless_odd hstatus rfl hread (.given rfl rfl) (.given rfl rfl)
  obtain ⟨message, hshown, hfails⟩ := herror "no such table" rfl rfl hnull (by simp [Named])
  rw [hshown.eq_truncate, truncate_of_length_le (by decide)] at hfails
  exact ⟨hstatus, hnull, hfails⟩

/-- An object in the place of the details hides the text of the error. -/
theorem object_beside_the_error_hides_it :
    let r : Response := ⟨500,
      "\x7b\"error\":\"no such table\",\"details\":\x7b\"code\":7\x7d\x7d".toUTF8.toList, false⟩
    ∃ members details, Document.ofBytes? r.body = some (.object members) ∧
      Holds members "details" (some details) ∧ text? (some details) = none ∧
      Holds members "error" (some (.string (some "no such table"))) ∧
      r.Fails (.backend 500 "Internal Server Error") ∧
      ¬ r.Fails (.backend 500 "no such table") := by
  intro r
  have hread : Document.ofText?
      "\x7b\"error\":\"no such table\",\"details\":\x7b\"code\":7\x7d\x7d" =
      some (.object [(some "error", .string (some "no such table")),
        (some "details", .object [(some "code", .number (some (.int 7 (by decide))))])]) := by
    cbv
  have hodd : Odd (some (.object [(some "code", .number (some (.int 7 (by decide))))])) :=
    ⟨Option.some_ne_none _, by simp, rfl⟩
  have hrefused : Response.Refused r.body :=
    Response.refused_of_odd hread (.given rfl rfl) (.given rfl rfl) (.inr hodd)
  have hfails : r.Fails (.backend 500 (phrase 500)) := Response.fails_of_refused rfl rfl hrefused
  refine ⟨_, _, hread, .given rfl rfl, rfl, .given rfl rfl, hfails, ?_⟩
  intro hother
  exact absurd (hfails.message_eq hother) (by decide)

end Http

end SqlGateway
