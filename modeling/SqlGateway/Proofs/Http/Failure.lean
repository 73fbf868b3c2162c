import SqlGateway.Proofs.Http.Response

/-! What a caller learns from the response of a failure: its status and one message. The message is
what the body states for it, or the standard phrase of the status, and nothing else in the body is
shown, however deep or odd it is. No body makes a success or a malformed answer of a failure. -/
namespace SqlGateway

open Json (Document Decoder)
open Json.Decoder (Stated Nullable)
open QueryResponse (IsText text_eq_some_iff)

namespace FailureReport

/-- An object that states these two members, each missing, null or a text, and holds whatever else
under names that are texts. A string with half of a surrogate pair in it is no text, as a name and
as a value. -/
def Stating (error details : Option String) (d : Document) : Prop :=
  ∃ named : List (String × Document),
    let members := named.map fun member => (some member.1, member.2)
    d = .object members ∧ Stated members "error" none (Nullable IsText) error ∧
      Stated members "details" none (Nullable IsText) details

theorem run_decode_of_stating {error details : Option String} {d : Document}
    (h : Stating error details d) : Decoder.run decode d = some ⟨error, details⟩ := by
  obtain ⟨named, rfl, herror, hdetails⟩ := h
  obtain ⟨first, hfirst, hfirst'⟩ := (Decoder.stated_iff fun _ _ => text_eq_some_iff).mpr herror
  obtain ⟨second, hsecond, hsecond'⟩ :=
    (Decoder.stated_iff fun _ _ => text_eq_some_iff).mpr hdetails
  have hkeys : ∀ member ∈ named.map fun member => (some member.1, member.2), member.1 ≠ none := by
    intro member hmember
    obtain ⟨_, -, rfl⟩ := List.mem_map.mp hmember
    exact Option.some_ne_none _
  have hslots : Decoder.slots? ["error", "details"]
      (.object (named.map fun member => (some member.1, member.2))) = some [first, second] :=
    Decoder.slots?_object_eq_some_iff.mpr ⟨hkeys, .cons hfirst (.cons hsecond .nil)⟩
  change (Decoder.slots? _ _).bind _ = _
  rw [hslots, Option.bind_some]
  dsimp only
  rw [hfirst', hsecond']
  rfl

end FailureReport

namespace Http

def phrase (status : UInt16) : String := (reasonPhrase? status).getD "request failed"

/-- A message as it is shown: whole, or its first 512 characters and three points. -/
inductive Shown (message : String) : String → Prop
  | whole : message.length ≤ 512 → Shown message message
  | cut {head tail : List Char} : message.toList = head ++ tail → head.length = 512 → tail ≠ [] →
      Shown message (String.ofList head ++ "...")

theorem shown_truncate (message : String) : Shown message (Failure.truncate message) := by
  unfold Failure.truncate
  split
  · next h => exact .whole h
  · next h =>
      have hlong : 512 < message.toList.length := Nat.lt_of_not_le h
      refine .cut (List.take_append_drop 512 message.toList).symm ?_ ?_
      · rw [List.length_take]
        exact Nat.min_eq_left (Nat.le_of_lt hlong)
      · rw [Ne, List.drop_eq_nil_iff]
        exact Nat.not_le_of_lt hlong

theorem truncate_of_length_le {message : String} (h : message.length ≤ 512) :
    Failure.truncate message = message := if_pos h

theorem Shown.eq_truncate {message shown : String} (h : Shown message shown) :
    shown = Failure.truncate message := by
  cases h with
  | whole hle => exact (truncate_of_length_le hle).symm
  | @cut head tail hsplit hhead htail =>
      have hlong : ¬ message.length ≤ Failure.maxMessageLength := by
        have hlength : message.length = head.length + tail.length := by
          rw [← String.length_toList, hsplit, List.length_append]
        have htail' : 0 < tail.length := List.length_pos_iff.mpr htail
        have hmax : Failure.maxMessageLength = 512 := rfl
        omega
      have hhead' : message.toList.take Failure.maxMessageLength = head := by
        rw [hsplit]
        exact List.take_left' hhead
      rw [Failure.truncate, if_neg hlong, hhead']

theorem length_phrase_le (status : UInt16) : (phrase status).length ≤ 512 := by
  have hphrases : ∀ entry ∈ phrases, entry.2.length ≤ 512 := by decide +kernel
  unfold phrase reasonPhrase?
  cases h : phrases.lookup status with
  | none => decide
  | some found =>
      obtain ⟨before, after, hsplit, -⟩ := List.lookup_eq_some_iff.mp h
      apply hphrases (status, found)
      rw [hsplit]
      simp

namespace Response

variable {r : Response} {body : List UInt8} {error details : Option String}

def Reports (body : List UInt8) (error details : Option String) : Prop :=
  ∃ d, Document.ofBytes? body = some d ∧ FailureReport.Stating error details d

/-- A body from which no report can be read. -/
def Refused (body : List UInt8) : Prop :=
  (Document.ofBytes? body).bind (Decoder.run FailureReport.decode) = none

/-- An object with a name that is no text, such as half of a surrogate pair, is refused as a
whole. -/
theorem refused_of_nameless {members : List (Option String × Document)}
    (hread : Document.ofBytes? body = some (.object members))
    (h : ∃ member ∈ members, member.1 = none) : Refused body := by
  obtain ⟨member, hmem, hname⟩ := h
  rw [Refused, hread, Option.bind_some]
  change (Decoder.slots? ["error", "details"] (.object members)).bind _ = none
  cases hslots : Decoder.slots? ["error", "details"] (.object members) with
  | none => rfl
  | some slots => exact absurd hname ((Decoder.slots?_object_eq_some_iff.mp hslots).1 member hmem)

/-- Whether asked for a statement or for its health, the gateway is said to have failed so. -/
def Fails (r : Response) (f : Failure) : Prop :=
  r.queryOutcome = .error f ∧ r.healthOutcome = .error f

theorem failure_of_reports (status : UInt16) (h : Reports body error details) :
    failure status body =
      .backend status (Failure.truncate ((details.or error).getD (phrase status))) := by
  obtain ⟨d, hd, hstating⟩ := h
  have hreport : report body = ⟨error, details⟩ := by
    rw [report, hd, Option.bind_some, FailureReport.run_decode_of_stating hstating]
    rfl
  rw [failure, hreport]
  change Failure.backend status (Failure.truncate (((details.or error).or _).getD _)) = _
  rw [Option.getD_or]
  rfl

theorem failure_of_refused (status : UInt16) (h : Refused body) :
    failure status body = .backend status (phrase status) := by
  have hreport : report body = .silent := by
    rw [report, h]
    rfl
  rw [failure, hreport]
  exact congrArg (Failure.backend status) (truncate_of_length_le (length_phrase_le status))

theorem fails_of_wholeBody (hstatus : isSuccess r.status = false) (hbody : r.wholeBody = .ok body) :
    r.Fails (failure r.status body) := by
  constructor
  · rw [queryOutcome, hbody]
    change (if isSuccess r.status = true then _ else _) = _
    rw [hstatus]
    rfl
  · rw [healthOutcome, hstatus, hbody]
    rfl

theorem fails_of_reports (hstatus : isSuccess r.status = false) (hbody : r.wholeBody = .ok body)
    (h : Reports body error details) :
    r.Fails (.backend r.status
      (Failure.truncate ((details.or error).getD (phrase r.status)))) := by
  rw [← failure_of_reports r.status h]
  exact fails_of_wholeBody hstatus hbody

theorem fails_of_refused (hstatus : isSuccess r.status = false) (hbody : r.wholeBody = .ok body)
    (h : Refused body) : r.Fails (.backend r.status (phrase r.status)) := by
  rw [← failure_of_refused r.status h]
  exact fails_of_wholeBody hstatus hbody

theorem Fails.message_eq {message other : String} (h : r.Fails (.backend r.status message))
    (h' : r.Fails (.backend r.status other)) : message = other :=
  (Failure.backend.inj (Except.error.inj (h.1.symm.trans h'.1))).2

theorem fails_of_cutShort {f : Failure} (hstatus : isSuccess r.status = false)
    (hbody : r.wholeBody = .error f) : r.Fails f ∧ f = .transport "error decoding response body" := by
  have hcut : f = .transport "error decoding response body" := by
    unfold wholeBody at hbody
    split at hbody
    · cases hbody
    · split at hbody
      · cases hbody
        rfl
      · cases hbody
  refine ⟨⟨?_, ?_⟩, hcut⟩
  · rw [queryOutcome, hbody]
    rfl
  · rw [healthOutcome, hstatus, hbody]
    rfl

end Response

/-- The next request of the sender is answered by this response. -/
structure Sender.Meets (s : Sender) (peer : Peer) (r : Response) : Prop where
  canSend : s.canSend = true
  answers : ∃ rest, peer.connections = .answers r :: rest
  final : isFinal r.status = true

theorem Sender.Meets.outcome {s : Sender} {peer : Peer} {r : Response} (h : s.Meets peer r) :
    (∀ request, (s.transport.send peer request).1.outcome = r.queryOutcome) ∧
      (s.transport.health peer).1.outcome = r.healthOutcome := by
  obtain ⟨rest, hpeer⟩ := h.answers
  have hexchange : ∀ {α : Type} (request : Request) (read : Response → Except Failure α),
      (s.exchange request read peer).1.outcome = read r := by
    intro α request read
    rw [Sender.exchange, if_pos h.canSend, hpeer]
    exact if_pos h.final
  exact ⟨fun request => hexchange _ _, hexchange _ _⟩

/-- The response of a failure is a failure, of a statement and of a health check alike. If its body
states the members of a report, the failure is made of the status and of the details, else the
error, else the phrase of the status, and any other body that states the same is the same failure,
whatever else it holds. If no report can be read from the body, the phrase is the message. Only a
body that breaks off is no failure of the gateway's own. -/
theorem failure_shows_only_its_message {r : Response} (hstatus : isSuccess r.status = false) :
    (∀ body error details, r.wholeBody = .ok body → Response.Reports body error details →
      ∃ message, Shown ((details.or error).getD (phrase r.status)) message ∧
        r.Fails (.backend r.status message) ∧
        ∀ (r' : Response) body', r'.status = r.status → r'.wholeBody = .ok body' →
          Response.Reports body' error details → r'.Fails (.backend r.status message)) ∧
    (∀ body, r.wholeBody = .ok body → Response.Refused body →
      r.Fails (.backend r.status (phrase r.status))) ∧
    (∀ body, r.wholeBody = .ok body → ∃ message, r.Fails (.backend r.status message)) ∧
    (∀ f, r.wholeBody = .error f → r.Fails f ∧ f = .transport "error decoding response body") ∧
    ∀ s peer f, Sender.Meets s peer r → r.Fails f →
      (∀ request, (s.transport.send peer request).1.outcome = .error f) ∧
        (s.transport.health peer).1.outcome = .error f := by
  refine ⟨?_, ?_, ?_, ?_, ?_⟩
  · intro body error details hbody hreports
    refine ⟨_, shown_truncate _, Response.fails_of_reports hstatus hbody hreports, ?_⟩
    -- the other body enters only by what it states
    intro r' body' hsame hbody' hreports'
    rw [← hsame] at hstatus ⊢
    exact Response.fails_of_reports hstatus hbody' hreports'
  · intro body hbody hrefused
    exact Response.fails_of_refused hstatus hbody hrefused
  · intro body hbody
    exact ⟨_, Response.fails_of_wholeBody hstatus hbody⟩
  · intro f hbody
    exact Response.fails_of_cutShort hstatus hbody
  · intro s peer f hmeets hfails
    obtain ⟨hsend, hhealth⟩ := hmeets.outcome
    exact ⟨fun request => (hsend request).trans hfails.1, hhealth.trans hfails.2⟩

/-- Two bodies about the same fault, one with the statement that was sent and one without. -/
theorem failure_of_an_unknown_table :
    let r : Response := ⟨500,
      "\x7b\"sql\":[\"SELECT 1\"],\"details\":\"no such table\",\"error\":null\x7d".toUTF8.toList,
      false⟩
    let r' : Response := ⟨500, "\x7b\"details\":\"no such table\"\x7d".toUTF8.toList, false⟩
    isSuccess r.status = false ∧ r.Fails (.backend 500 "no such table") ∧
      r'.Fails (.backend 500 "no such table") := by
  intro r r'
  have hread : Document.ofText?
      "\x7b\"sql\":[\"SELECT 1\"],\"details\":\"no such table\",\"error\":null\x7d" = some
      (.object [(some "sql", .array [.string (some "SELECT 1")]),
        (some "details", .string (some "no such table")), (some "error", .null)]) := by
    cbv
  have hread' : Document.ofText? "\x7b\"details\":\"no such table\"\x7d" =
      some (.object [(some "details", .string (some "no such table"))]) := by
    cbv
  have hreports : Response.Reports r.body none (some "no such table") :=
    ⟨_, hread, [("sql", .array [.string (some "SELECT 1")]),
      ("details", .string (some "no such table")), ("error", .null)], rfl, .given rfl rfl,
      .given rfl rfl⟩
  have hreports' : Response.Reports r'.body none (some "no such table") :=
    ⟨_, hread', [("details", .string (some "no such table"))], rfl, .missing (by simp),
      .given rfl rfl⟩
  have hstatus : isSuccess r.status = false := rfl
  obtain ⟨hstated, -⟩ := failure_shows_only_its_message hstatus
  obtain ⟨message, hshown, hfails, hsame⟩ := hstated _ _ _ rfl hreports
  have hmessage : message = "no such table" := by
    rw [hshown.eq_truncate]
    exact truncate_of_length_le (by decide)
  subst hmessage
  exact ⟨hstatus, hfails, hsame r' _ rfl rfl hreports'⟩

/-- A member whose name is half of a surrogate pair hides the message of the body. -/
theorem nameless_member_hides_the_message :
    let r : Response :=
      ⟨500, "\x7b\"\\ud800\":1,\"error\":\"no such table\"\x7d".toUTF8.toList, false⟩
    ∃ members, Document.ofBytes? r.body = some (.object members) ∧
      Stated members "error" none (Nullable IsText) (some "no such table") ∧
      Stated members "details" none (Nullable IsText) none ∧
      r.Fails (.backend 500 "Internal Server Error") ∧
      ¬ r.Fails (.backend 500 "no such table") := by
  intro r
  have hread : Document.ofText? "\x7b\"\\ud800\":1,\"error\":\"no such table\"\x7d" =
      some (.object [(none, .number (some (.int 1 (by decide)))),
        (some "error", .string (some "no such table"))]) := by
    cbv
  have hrefused : Response.Refused r.body :=
    Response.refused_of_nameless hread ⟨_, List.mem_cons_self, rfl⟩
  have hfails : r.Fails (.backend 500 (phrase 500)) := Response.fails_of_refused rfl rfl hrefused
  refine ⟨_, hread, .given rfl rfl, .missing (by simp), hfails, ?_⟩
  intro hother
  exact absurd (hfails.message_eq hother) (by decide)

end Http

end SqlGateway
