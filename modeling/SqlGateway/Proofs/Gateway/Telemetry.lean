import SqlGateway.Gateway.Script
import SqlGateway.Proofs.Gateway.Overlap

/-! What listeners learn of calls that overlap. Whatever the order of the steps, each statement that
is sent has one event, with the listeners registered before it, and each of them is told once; and
every answer is the one that the call would have had alone. -/
namespace SqlGateway

/-- The other side after these requests. -/
def Transport.afterAll {σ : Type} (t : Transport σ) (peer : σ) (requests : List QueryRequest) : σ :=
  requests.foldl (fun peer r => (t.send peer r).2) peer

/-- What an occurrence leaves behind in the client. -/
structure Client.Notes {σ : Type} (c : Client σ) (o : Occurrence) (c' : Client σ) : Prop where
  settings : c'.settings = c.settings
  transport : c'.transport = c.transport
  hooks : c'.hooks = c.hooks ++ o.hook?.toList
  sent : c'.sent = c.sent ++ o.request?.toList
  peer : c'.peer = c.transport.afterAll c.peer o.request?.toList
  exchange : ∀ i r x, o = .sent i r x → x = (c.transport.send c.peer r).1
  emissions : c'.emissions = c.emissions ++ o.emission?.toList
  snapshot : ∀ emission ∈ o.emission?, emission.hooks = c.hooks

theorem Client.notes_addHook {σ : Type} (c : Client σ) (hook : Hook) :
    c.Notes (.registered hook) (c.addHook hook) where
  settings := rfl
  transport := rfl
  hooks := rfl
  sent := (List.append_nil _).symm
  peer := rfl
  exchange _ _ _ h := nomatch h
  emissions := (List.append_nil _).symm
  snapshot _ h := nomatch h

/-- An occurrence that is none of the client's. -/
theorem Client.notes_self {σ : Type} (c : Client σ) {o : Occurrence} (hhook : o.hook? = none)
    (hrequest : o.request? = none) (hemission : o.emission? = none) : c.Notes o c where
  settings := rfl
  transport := rfl
  hooks := by rw [hhook, Option.toList_none, List.append_nil]
  sent := by rw [hrequest, Option.toList_none, List.append_nil]
  peer := by
    rw [hrequest]
    rfl
  exchange i r x h := by
    rw [h] at hrequest
    cases hrequest
  emissions := by rw [hemission, Option.toList_none, List.append_nil]
  snapshot e he := by
    rw [hemission] at he
    cases he

theorem Client.notes_start {σ : Type} (c : Client σ) (i : Nat) (d : Dispatch) :
    c.Notes (.sent i d.request (c.transport.send c.peer d.request).1) (c.start d).2 where
  settings := rfl
  transport := rfl
  hooks := (List.append_nil _).symm
  sent := rfl
  peer := rfl
  exchange _ _ _ h := by
    cases h
    rfl
  emissions := (List.append_nil _).symm
  snapshot _ h := nomatch h

theorem Client.notes_finish {σ : Type} (c : Client σ) (i : Nat) (f : InFlight) :
    c.Notes (.emitted i (c.emission f)) (c.finish f).2 where
  settings := rfl
  transport := rfl
  hooks := (List.append_nil _).symm
  sent := (List.append_nil _).symm
  peer := rfl
  exchange _ _ _ h := nomatch h
  emissions := rfl
  snapshot _ h := by
    cases h
    rfl

/-- A step of a call is about that call, and the client notes it. -/
theorem Stage.notes_next? {σ : Type} {c c' : Client σ} {i : Nat} {stage stage' : Stage}
    {o : Occurrence} (h : stage.next? c i = some (o, stage', c')) :
    o.call? = some i ∧ c.Notes o c' := by
  cases stage with
  | rejected answer =>
      cases h
      exact ⟨rfl, c.notes_self rfl rfl rfl⟩
  | ready source =>
      cases h
      exact ⟨rfl, c.notes_start i source.dispatch⟩
  | waiting source f =>
      cases h
      exact ⟨rfl, c.notes_self rfl rfl rfl⟩
  | settled source f =>
      cases h
      exact ⟨rfl, c.notes_finish i f⟩
  | telling event pending answer =>
      cases pending with
      | nil =>
          cases h
          exact ⟨rfl, c.notes_self rfl rfl rfl⟩
      | cons hook pending =>
          rw [Stage.next?_telling] at h
          cases h
          exact ⟨rfl, c.notes_self rfl rfl rfl⟩
  | closed => cases h

/-! ### What a log tells of the client -/

namespace Occurrence

theorem filterMap_concat {α : Type} (f : Occurrence → Option α) (log : List Occurrence)
    (o : Occurrence) : (log ++ [o]).filterMap f = log.filterMap f ++ (f o).toList := by
  rw [List.filterMap_append]
  cases h : f o with
  | none => rw [List.filterMap_cons_none h, List.filterMap_nil, Option.toList_none]
  | some a => rw [List.filterMap_cons_some h, List.filterMap_nil, Option.toList_some]

theorem about_concat_of_eq {i : Nat} {o : Occurrence} (h : o.call? = some i)
    (log : List Occurrence) : about i (log ++ [o]) = about i log ++ [o] := by
  have hone : [o].filter (·.call? == some i) = [o] :=
    List.filter_cons_of_pos (by rw [h, beq_self_eq_true])
  rw [about, List.filter_append, hone, about]

theorem about_concat_of_ne {i : Nat} {o : Occurrence} (h : o.call? ≠ some i)
    (log : List Occurrence) : about i (log ++ [o]) = about i log := by
  have hnone : [o].filter (·.call? == some i) = [] :=
    List.filter_cons_of_neg fun hbeq => h (beq_iff_eq.mp hbeq)
  rw [about, List.filter_append, hnone, List.append_nil, about]

/-- A place in a longer log is a place in the log or its end. -/
theorem concat_eq_append_cons {log earlier later : List Occurrence} {o p : Occurrence}
    (h : log ++ [o] = earlier ++ p :: later) :
    (o = p ∧ log = earlier) ∨ ∃ rest, log = earlier ++ p :: rest := by
  obtain rfl | ⟨rest, last, rfl⟩ := later.eq_nil_or_concat
  · obtain ⟨hlog, hlast⟩ := List.append_inj' h rfl
    exact .inl ⟨List.head_eq_of_cons_eq hlast, hlog⟩
  · rw [List.concat_eq_append, ← List.cons_append, ← List.append_assoc] at h
    exact .inr ⟨rest, (List.append_inj' h rfl).1⟩

end Occurrence

/-- The client behind a log, from the client before it. -/
structure Client.Recorded {σ : Type} (client c : Client σ) (log : List Occurrence) : Prop where
  settings : c.settings = client.settings
  transport : c.transport = client.transport
  hooks : c.hooks = client.hooks ++ log.filterMap Occurrence.hook?
  sent : c.sent = client.sent ++ log.filterMap Occurrence.request?
  peer : c.peer = client.transport.afterAll client.peer (log.filterMap Occurrence.request?)
  exchanges : ∀ earlier i r x later, log = earlier ++ .sent i r x :: later →
    x = (client.transport.send
      (client.transport.afterAll client.peer (earlier.filterMap Occurrence.request?)) r).1
  emissions : c.emissions = client.emissions ++ log.filterMap Occurrence.emission?
  snapshots : ∀ earlier i emission later, log = earlier ++ .emitted i emission :: later →
    emission.hooks = client.hooks ++ earlier.filterMap Occurrence.hook?

theorem Client.recorded_nil {σ : Type} (client : Client σ) : client.Recorded client [] where
  settings := rfl
  transport := rfl
  hooks := (List.append_nil _).symm
  sent := (List.append_nil _).symm
  peer := rfl
  exchanges _ _ _ _ _ h := absurd h (by simp)
  emissions := (List.append_nil _).symm
  snapshots _ _ _ _ h := absurd h (by simp)

theorem Client.Recorded.concat {σ : Type} {client c c' : Client σ} {log : List Occurrence}
    {o : Occurrence} (h : client.Recorded c log) (hnotes : c.Notes o c') :
    client.Recorded c' (log ++ [o]) where
  settings := hnotes.settings.trans h.settings
  transport := hnotes.transport.trans h.transport
  hooks := by rw [hnotes.hooks, h.hooks, Occurrence.filterMap_concat, List.append_assoc]
  sent := by rw [hnotes.sent, h.sent, Occurrence.filterMap_concat, List.append_assoc]
  peer := by
    rw [hnotes.peer, h.peer, h.transport, Occurrence.filterMap_concat, Transport.afterAll,
      Transport.afterAll, Transport.afterAll, List.foldl_append]
  exchanges earlier i r x later hlog := by
    obtain ⟨rfl, rfl⟩ | ⟨rest, hrest⟩ := Occurrence.concat_eq_append_cons hlog
    · rw [hnotes.exchange i r x rfl, h.transport, h.peer]
    · exact h.exchanges earlier i r x rest hrest
  emissions := by rw [hnotes.emissions, h.emissions, Occurrence.filterMap_concat, List.append_assoc]
  snapshots earlier i emission later hlog := by
    obtain ⟨rfl, rfl⟩ | ⟨rest, hrest⟩ := Occurrence.concat_eq_append_cons hlog
    · rw [hnotes.snapshot emission rfl, h.hooks]
    · exact h.snapshots earlier i emission rest hrest

/-! ### What every step keeps -/

namespace Overlap

variable {σ : Type} {client : Client σ} {chains : List Chain} {s s' : Overlap σ}

structure Consistent (client : Client σ) (chains : List Chain) (s : Overlap σ) : Prop where
  recorded : client.Recorded s.client s.log
  compiled : s.chains.map Chain.compile = chains.map Chain.compile
  calls : ∀ i call, s.calls[i]? = some call → ∃ checked,
    call.task.check? chains = some checked ∧
      Stands client.settings.requestTimeout i checked call.stage (Occurrence.about i s.log)
  fresh : ∀ i, s.calls[i]? = none → Occurrence.about i s.log = []

theorem consistent_start (client : Client σ) (chains : List Chain) :
    Consistent client chains (start client chains) where
  recorded := client.recorded_nil
  compiled := rfl
  calls i call h := by
    rw [start, List.getElem?_nil] at h
    cases h
  fresh _ _ := rfl

theorem Consistent.register (h : Consistent client chains s) (hook : Hook) :
    Consistent client chains
      { s with client := s.client.addHook hook, log := s.log ++ [.registered hook] } := by
  have hsame : ∀ i,
      Occurrence.about i (s.log ++ [.registered hook]) = Occurrence.about i s.log := by
    intro i
    have hnone : (Occurrence.registered hook).call? ≠ some i := (Option.some_ne_none i).symm
    exact Occurrence.about_concat_of_ne hnone s.log
  refine ⟨h.recorded.concat (s.client.notes_addHook hook), h.compiled, ?_, ?_⟩
  · intro i call hcall
    rw [hsame]
    exact h.calls i call hcall
  · intro i hnone
    rw [hsame]
    exact h.fresh i hnone

theorem Consistent.begin (h : Consistent client chains s) {task : Task}
    {checked : Except Answer Source} (hcheck : task.check? s.chains = some checked) :
    Consistent client chains
      { s with chains := task.after s.chains, calls := s.calls ++ [⟨task, .first checked⟩] } := by
  refine ⟨h.recorded, (task.map_compile_after s.chains).trans h.compiled, ?_, ?_⟩
  · intro i call hcall
    by_cases hi : i < s.calls.length
    · rw [List.getElem?_append_left hi] at hcall
      exact h.calls i call hcall
    · have hnone : s.calls[i]? = none := List.getElem?_eq_none_iff.mpr (Nat.le_of_not_lt hi)
      rw [List.getElem?_append_right (Nat.le_of_not_lt hi)] at hcall
      obtain rfl : ⟨task, .first checked⟩ = call := by
        cases hplace : i - s.calls.length with
        | zero =>
            rw [hplace] at hcall
            exact Option.some.inj hcall
        | succ n =>
            rw [hplace] at hcall
            cases hcall
      refine ⟨checked, (task.check?_congr h.compiled).symm.trans hcheck, ?_⟩
      rw [h.fresh i hnone]
      exact Stands.first checked
  · intro i hnone
    apply h.fresh i
    have hlength := List.getElem?_eq_none_iff.mp hnone
    rw [List.length_append] at hlength
    exact List.getElem?_eq_none_iff.mpr (Nat.le_of_add_right_le hlength)

theorem Consistent.advance (h : Consistent client chains s) {i : Nat} {call : OpenCall}
    (hcall : s.calls[i]? = some call) {o : Occurrence} {stage : Stage} {c : Client σ}
    (hnext : call.stage.next? s.client i = some (o, stage, c)) :
    Consistent client chains
      { s with client := c, calls := s.calls.set i ⟨call.task, stage⟩, log := s.log ++ [o] } := by
  obtain ⟨habout, hnotes⟩ := Stage.notes_next? hnext
  have hlt : i < s.calls.length := (List.getElem?_eq_some_iff.mp hcall).1
  have hother : ∀ {j}, i ≠ j → Occurrence.about j (s.log ++ [o]) = Occurrence.about j s.log := by
    intro j hij
    apply Occurrence.about_concat_of_ne
    rw [habout]
    exact fun hsome => hij (Option.some.inj hsome)
  -- The call that takes the step moves on by it; the log says about the others what it said before.
  refine ⟨h.recorded.concat hnotes, h.compiled, ?_, ?_⟩
  · intro j other hj
    by_cases hij : i = j
    · subst hij
      rw [List.getElem?_set_self hlt] at hj
      cases hj
      obtain ⟨checked, hcheck, hstands⟩ := h.calls i call hcall
      refine ⟨checked, hcheck, ?_⟩
      rw [Occurrence.about_concat_of_eq habout]
      rw [← h.recorded.settings] at hstands ⊢
      exact hstands.next hnext
    · rw [List.getElem?_set_ne hij] at hj
      rw [hother hij]
      exact h.calls j other hj
  · intro j hnone
    by_cases hij : i = j
    · subst hij
      rw [List.getElem?_set_self hlt] at hnone
      cases hnone
    · rw [List.getElem?_set_ne hij] at hnone
      rw [hother hij]
      exact h.fresh j hnone

theorem Consistent.step? (h : Consistent client chains s) {label : Label}
    (hstep : s.step? label = some s') : Consistent client chains s' := by
  cases label with
  | register hook =>
      cases hstep
      exact h.register hook
  | begin task =>
      obtain ⟨checked, hcheck, rfl⟩ := Option.map_eq_some_iff.mp hstep
      exact h.begin hcheck
  | advance i =>
      obtain ⟨call, hcall, hmap⟩ := Option.bind_eq_some_iff.mp hstep
      obtain ⟨⟨o, stage, c⟩, hnext, rfl⟩ := Option.map_eq_some_iff.mp hmap
      exact h.advance hcall hnext

theorem Consistent.run? (h : Consistent client chains s) {labels : List Label}
    (hrun : s.run? labels = some s') : Consistent client chains s' := by
  induction labels generalizing s with
  | nil =>
      cases hrun
      exact h
  | cons label labels ih =>
      obtain ⟨s₁, hstep, hrest⟩ := Option.bind_eq_some_iff.mp hrun
      exact ih (h.step? hstep) hrest

end Overlap

/-! ### The account of a call -/

/-- A call without a statement is answered and does nothing else. -/
structure RefusedCall (chains : List Chain) (log : List Occurrence) (i : Nat) (task : Task)
    (answer : Answer) : Prop where
  checked : task.check? chains = some (.error answer)
  story : Occurrence.about i log <+: [.returned i answer]
  alone : ∀ (τ : Type) (c : Client τ), task.alone? chains c = some (answer, c)

/-- A call with a statement follows its story, of which nothing is left out once it is answered. The
listeners of the story are those registered before the event, and the answer is that of the call
alone, wherever its request has the same reply. -/
structure SentCall {σ : Type} (client : Client σ) (chains : List Chain) (log : List Occurrence)
    (i : Nat) (task : Task) (source : Source) (exchange : Exchange QueryResponse)
    (reply : Except Failure QueryResponse) (event : QueryEvent) (hooks : List Hook)
    (answer : Answer) : Prop where
  checked : task.check? chains = some (.ok source)
  story : Occurrence.about i log <+: source.story i exchange event hooks answer
  whole : ∀ answer', .returned i answer' ∈ log →
    Occurrence.about i log = source.story i exchange event hooks answer
  exchanged : ∀ earlier later, log = earlier ++ .sent i source.dispatch.request exchange :: later →
    exchange = (client.transport.send (client.transport.afterAll client.peer
      (earlier.filterMap Occurrence.request?)) source.dispatch.request).1
  replied : Reply client.settings.requestTimeout exchange reply
  tells : event.Tells source reply answer
  listeners : ∀ earlier later, log = earlier ++ .emitted i ⟨event, hooks⟩ :: later →
    hooks = client.hooks ++ earlier.filterMap Occurrence.hook?
  alone : ∀ (τ : Type) (c : Client τ),
    Reply c.settings.requestTimeout (c.transport.send c.peer source.dispatch.request).1 reply →
      (task.alone? chains c).map Prod.fst = some answer

inductive Faithful {σ : Type} (client : Client σ) (chains : List Chain) (log : List Occurrence)
    (i : Nat) (task : Task) : Prop
  | refused {answer : Answer} : RefusedCall chains log i task answer →
      Faithful client chains log i task
  | sent {source : Source} {exchange : Exchange QueryResponse}
      {reply : Except Failure QueryResponse} {event : QueryEvent} {hooks : List Hook}
      {answer : Answer} :
      SentCall client chains log i task source exchange reply event hooks answer →
      Faithful client chains log i task

namespace Overlap

variable {σ : Type} {client : Client σ} {chains : List Chain} {s : Overlap σ}

theorem mem_about {i : Nat} {answer : Answer} {log : List Occurrence}
    (h : .returned i answer ∈ log) : .returned i answer ∈ Occurrence.about i log :=
  List.mem_filter.mpr ⟨h, beq_self_eq_true _⟩

theorem Consistent.faithful (h : Consistent client chains s) {i : Nat} {call : OpenCall}
    (hcall : s.calls[i]? = some call) : Faithful client chains s.log i call.task := by
  obtain ⟨checked, hcheck, hstands⟩ := h.calls i call hcall
  cases checked with
  | error answer =>
      refine .refused ⟨hcheck, ?_, fun τ c => Task.alone?_of_error hcheck c⟩
      generalize call.stage = stage, Occurrence.about i s.log = history at hstands
      cases hstands with
      | rejected => exact List.nil_prefix
      | refused => exact List.prefix_rfl
  | ok source =>
      obtain ⟨exchange, reply, hooks, hreply, hprefix, hwhole⟩ := hstands.story_of_ok
      exact .sent {
        checked := hcheck
        story := hprefix
        whole := fun answer hmem => hwhole answer (mem_about hmem)
        exchanged := fun earlier later hlog =>
          h.recorded.exchanges earlier i source.dispatch.request exchange later hlog
        replied := hreply
        tells := source.tells_event reply
        listeners := fun earlier later hlog => h.recorded.snapshots earlier i _ later hlog
        alone := fun τ c hsame => Task.alone?_of_reply hcheck hsame }

/-- Every call can be brought to its answer, whatever else goes on. -/
theorem Consistent.exists_answer (h : Consistent client chains s) {i : Nat} {call : OpenCall}
    (hcall : s.calls[i]? = some call) :
    ∃ n s' answer, s.run? (List.replicate n (.advance i)) = some s' ∧
      .returned i answer ∈ s'.log := by
  obtain ⟨n, s', hrun, hclosed⟩ := exists_run?_closed hcall
  obtain ⟨checked, -, hstands⟩ := (h.run? hrun).calls i _ hclosed
  obtain ⟨answer, hmem⟩ := hstands.returned_of_closed
  exact ⟨n, s', answer, hrun, (List.mem_filter.mp hmem).1⟩

/-- However the steps of calls and the registrations of listeners follow each other: the client has
sent the requests and emitted the events of the log and no others, all of them by the calls that
were begun; every call follows its story, with the listeners registered before its event and the
answer that it would have had alone; and its own steps bring every call to its answer. -/
theorem faithful_of_run {labels : List Label}
    (hrun : (start client chains).run? labels = some s) :
    s.client.sent = client.sent ++ s.log.filterMap Occurrence.request? ∧
      s.client.emissions = client.emissions ++ s.log.filterMap Occurrence.emission? ∧
      (∀ i, s.calls[i]? = none → Occurrence.about i s.log = []) ∧
      ∀ i call, s.calls[i]? = some call → Faithful client chains s.log i call.task ∧
        ∃ n s' answer, s.run? (List.replicate n (.advance i)) = some s' ∧
          .returned i answer ∈ s'.log := by
  have h := (consistent_start client chains).run? hrun
  refine ⟨h.recorded.sent, h.recorded.emissions, h.fresh, fun i call hcall => ?_⟩
  exact ⟨h.faithful hcall, h.exists_answer hcall⟩

/-- Two calls overlap while listeners come, of which the first breaks down over every event. -/
theorem faithful_of_two_calls :
    let client : Client Script :=
      ⟨.default, Script.transport, ⟨[], [], []⟩, [⟨"first", fun _ => true⟩], [], []⟩
    let chains : List Chain := [.ofTable "tasks"]
    let second : Hook := ⟨"second", fun _ => false⟩
    let third : Hook := ⟨"third", fun event => event.ok⟩
    let labels : List Label := [.begin (.run 0), .begin (.query "SELECT 1" []), .advance 0,
      .advance 1, .advance 1, .register second, .advance 1, .advance 1, .advance 0,
      .register third, .advance 0, .advance 1, .advance 0, .advance 1]
    ∃ s, (start client chains).run? labels = some s ∧
      s.client.emissions.map (fun e => (e.event.table, e.hooks.map Hook.name)) =
        [(none, ["first", "second"]), (some "tasks", ["first", "second", "third"])] ∧
      Faithful client chains s.log 0 (.run 0) ∧
      Faithful client chains s.log 1 (.query "SELECT 1" []) := by
  intro client chains second third labels
  have hrun : ∃ s, (start client chains).run? labels = some s ∧
      s.client.emissions.map (fun e => (e.event.table, e.hooks.map Hook.name)) =
        [(none, ["first", "second"]), (some "tasks", ["first", "second", "third"])] ∧
      s.calls.map OpenCall.task = [.run 0, .query "SELECT 1" []] := ⟨_, rfl, rfl, rfl⟩
  obtain ⟨s, hrun, hemissions, htasks⟩ := hrun
  obtain ⟨-, -, -, hcalls⟩ := faithful_of_run hrun
  have htask : ∀ i task, (s.calls.map OpenCall.task)[i]? = some task →
      Faithful client chains s.log i task := by
    intro i task h
    rw [List.getElem?_map] at h
    obtain ⟨call, hcall, rfl⟩ := Option.map_eq_some_iff.mp h
    exact (hcalls i call hcall).1
  rw [htasks] at htask
  exact ⟨s, hrun, hemissions, htask 0 _ rfl, htask 1 _ rfl⟩

end Overlap

end SqlGateway
