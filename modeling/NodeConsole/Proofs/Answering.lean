import NodeConsole.Proofs.Course
import NodeConsole.Rpc.Client

/-!
One response for each request, and the right calls to the node. What has come in of a request and
how its calls went decide which calls it makes, which status its response has, and what is logged
about it; the other requests of the run have no say.
-/

namespace NodeConsole

theorem Rpc.reply_error {call : NodeCall} {outcome : Rpc.Outcome} {cause : Failure}
    (fails : Rpc.reply call outcome = .error cause) :
    ∃ method message status details, cause = .call method message status details := by
  cases outcome with
  | error transport =>
      cases fails
      exact ⟨_, _, _, _, rfl⟩
  | value response =>
      simp only [Rpc.reply] at fails
      split at fails
      · cases fails
      · cases fails
        exact ⟨_, _, _, _, rfl⟩
  | bytes content =>
      simp only [Rpc.reply] at fails
      split at fails
      · split at fails
        · cases fails
        · cases fails
          exact ⟨_, _, _, _, rfl⟩
      · cases fails
        exact ⟨_, _, _, _, rfl⟩

namespace Ui

open Http
open Http.Server (Event Occurrence find? past reached own received? calls outcomes logEntries
  responses calls_append outcomes_append logEntries_append responses_append)

def Purpose.calls : Purpose → Option (Except Failure Text) → List (NodeCall × Bool) → List NodeCall
  | .view, _, _ => [.listPeers]
  | .submit, some (.ok code), outcomes =>
    if (.run code, true) ∈ outcomes then [.run code, .listPeers] else [.run code]
  | _, _, _ => []

def Purpose.refusalStatus? : Purpose → Delivery → Option Int
  | .unreadable, _ => some 500
  | .otherPath, _ => some 404
  | .otherMethod, _ => some 405
  | .submit, .aborted _ => some 500
  | .submit, .ended chunks =>
    if bodyLimit < chunks.flatten.length then some 413
    else if (Form.ofBytes chunks.flatten).get? codeField = none then some 400
    else none
  | _, _ => none

def expectedCalls (received : Received) (outcomes : List (NodeCall × Bool)) : List NodeCall :=
  (purpose received.request).calls (submitted? received) outcomes

def refusalStatus? (received : Received) : Option Int :=
  (purpose received.request).refusalStatus? received.delivery

variable {ι : Type}

def Timely (received : Received) (history : List (Occurrence ι)) : Prop :=
  ∀ earlier, earlier <+: history → calls earlier <+: expectedCalls received (outcomes earlier)

structure AnsweredOnce (id : ι) (received : Received) (history : List (Occurrence ι))
    (exchange : Exchange) : Prop where
  calls_eq : calls history = expectedCalls received (outcomes history)
  timely : Timely received history
  /-- No call goes out before the ones before it are answered, and none is answered twice. -/
  answered_in_order : (outcomes history).map (·.1) <+: calls history
  /-- Headers and body are sent together or not at all. -/
  response_once :
    exchange.response = {} ∧ responses history = [] ∧ logEntries history = [] ∨
    ∃ status html, exchange.response = .whole status html ∧
      responses history = [(id, exchange.response)]
  /-- Nothing but its body and its calls keeps a request from its response. -/
  settled : received.delivery.isComplete = true → (outcomes history).map (·.1) = calls history →
    responses history = [(id, exchange.response)]
  sent : ∀ status, exchange.response.head.map (·.status) = some status →
    (outcomes history).map (·.1) = calls history ∧
    (status = 200 ↔ ∃ call, (outcomes history).getLast? = some (call, true)) ∧
    (status = 502 ↔ ∃ call, (call, false) ∈ outcomes history) ∧
    (calls history = [] → refusalStatus? received = some status) ∧
    (logEntries history).length = (if status ∈ [200, 404, 405] then 0 else 1) ∧
    ∀ entry ∈ logEntries history, entry.level = .error
  unrejected : exchange.rejected = none

theorem expectedCalls_mono (received : Received) (sooner later : List (NodeCall × Bool)) :
    expectedCalls received sooner <+: expectedCalls received (sooner ++ later) := by
  unfold expectedCalls
  cases purpose received.request with
  | submit =>
      cases submitted? received with
      | none => exact List.prefix_rfl
      | some submission =>
          cases submission with
          | error cause => exact List.prefix_rfl
          | ok code =>
              by_cases ran : (NodeCall.run code, true) ∈ sooner
              · simp [Purpose.calls, ran]
              · simp only [Purpose.calls, ran, if_false]
                split
                · exact ⟨[.listPeers], rfl⟩
                · exact List.prefix_rfl
  | _ => exact List.prefix_rfl

theorem Timely.start (received : Received) : Timely received ([] : List (Occurrence ι)) := by
  intro earlier within
  rw [List.prefix_nil.mp within]
  exact List.nil_prefix

theorem Timely.concat {received : Received} {history : List (Occurrence ι)}
    {occurrence : Occurrence ι} (timely : Timely received history)
    (last : calls (history ++ [occurrence]) <+:
      expectedCalls received (outcomes (history ++ [occurrence]))) :
    Timely received (history ++ [occurrence]) := by
  intro earlier within
  rcases List.prefix_concat_iff.mp within with whole | before
  · rw [whole]
    exact last
  · exact timely earlier before

/-- Nothing but a call can come too early. -/
theorem Timely.append {received : Received} {history : List (Occurrence ι)}
    (timely : Timely received history) (more : List (Occurrence ι)) (quiet : calls more = []) :
    Timely received (history ++ more) := by
  intro earlier within
  rcases List.prefix_or_prefix_of_prefix within (List.prefix_append history more) with
    before | beyond
  · exact timely earlier before
  · obtain ⟨sooner, rfl⟩ := beyond
    obtain ⟨rest, rfl⟩ := (List.prefix_append_right_inj history).mp within
    have silent : calls sooner = [] := by
      rw [calls_append] at quiet
      exact (List.append_eq_nil_iff.mp quiet).1
    rw [calls_append, silent, List.append_nil, outcomes_append]
    exact (timely history List.prefix_rfl).trans (expectedCalls_mono received _ _)

theorem expectedCalls_begun {id : ι} {received : Received} {before : List (Occurrence ι)}
    (begun : Begun id received before) (later : List (NodeCall × Bool)) :
    expectedCalls received (outcomes before ++ later) = calls before ++ [.listPeers] := by
  cases begun with
  | view asks => simp [expectedCalls, Purpose.calls, asks, calls]
  | submit asks accepted =>
      simp [expectedCalls, Purpose.calls, asks, accepted, outcomes, calls, Occurrence.outcome?,
        Occurrence.call?]

theorem timely_run {id : ι} {received : Received} {code : Text}
    (asks : purpose received.request = .submit)
    (accepted : submitted? received = some (.ok code)) :
    Timely received [Occurrence.called id (.run code)] := by
  have needed : expectedCalls received [] = [.run code] := by
    rw [expectedCalls, asks, accepted]
    rfl
  have timely : Timely received ([] ++ [Occurrence.called id (.run code)]) := by
    refine (Timely.start received).concat ?_
    change [.run code] <+: expectedCalls received []
    simp only [needed, List.prefix_rfl]
  exact timely

theorem timely_begun {id : ι} {received : Received} {before rest : List (Occurrence ι)}
    (begun : Begun id received before) (quiet : calls rest = []) :
    Timely received (before ++ .called id .listPeers :: rest) := by
  have asked : Timely received (before ++ [.called id .listPeers]) := by
    refine Timely.concat ?_ ?_
    · cases begun with
      | view asks => exact Timely.start received
      | submit asks accepted => exact (timely_run asks accepted).append _ rfl
    · have needed := expectedCalls_begun begun []
      rw [calls_append, outcomes_append]
      change calls before ++ [.listPeers] <+: expectedCalls received (outcomes before ++ [])
      simp only [needed, List.prefix_rfl]
  rw [List.append_cons]
  exact asked.append rest quiet

theorem outcomes_begun {id : ι} {received : Received} {before : List (Occurrence ι)}
    (begun : Begun id received before) : (outcomes before).map (·.1) = calls before := by
  cases begun <;> rfl

theorem succeeded_begun {id : ι} {received : Received} {before : List (Occurrence ι)}
    (begun : Begun id received before) (call : NodeCall) : (call, false) ∉ outcomes before := by
  cases begun <;> simp [outcomes, Occurrence.outcome?]

theorem quiet_begun {id : ι} {received : Received} {before : List (Occurrence ι)}
    (begun : Begun id received before) : responses before = [] ∧ logEntries before = [] := by
  cases begun <;> exact ⟨rfl, rfl⟩

theorem refusalStatus?_submit {received : Received} {cause : Failure}
    (asks : purpose received.request = .submit)
    (rejected : submitted? received = some (.error cause)) :
    refusalStatus? received = some cause.responseStatus := by
  obtain ⟨request, delivery⟩ := received
  simp only [refusalStatus?, Purpose.refusalStatus?, asks]
  cases delivery with
  | incoming chunks => simp [submitted?, Delivery.form?] at rejected
  | aborted message =>
      have foreign : Failure.foreign message = cause := Except.error.inj (Option.some.inj rejected)
      rw [← foreign]
      rfl
  | ended chunks =>
      simp only [submitted?, Delivery.form?] at rejected
      by_cases within : chunks.flatten.length ≤ bodyLimit
      · rw [if_pos within] at rejected
        simp only [if_neg (Nat.not_lt.mpr within)]
        cases found : (Form.ofBytes chunks.flatten).get? codeField with
        | none =>
            simp only [Option.map_some, codeIn, found] at rejected
            have missing : Failure.missingField codeField = cause :=
              Except.error.inj (Option.some.inj rejected)
            rw [← missing, if_pos rfl]
            rfl
        | some code => simp [codeIn, found] at rejected
      · rw [if_neg within] at rejected
        have tooLarge : Failure.request "Request body too large" 413 = cause :=
          Except.error.inj (Option.some.inj rejected)
        simp only [if_pos (Nat.lt_of_not_le within)]
        rw [← tooLarge]
        rfl

theorem AnsweredOnce.of_sent {id : ι} {received : Received} {history : List (Occurrence ι)}
    {exchange : Exchange} {status : Int} {html : Text}
    (calls_eq : calls history = expectedCalls received (outcomes history))
    (timely : Timely received history) (answered : (outcomes history).map (·.1) = calls history)
    (response : exchange.response = .whole status html)
    (once : responses history = [(id, exchange.response)])
    (succeeded : status = 200 ↔ ∃ call, (outcomes history).getLast? = some (call, true))
    (failed : status = 502 ↔ ∃ call, (call, false) ∈ outcomes history)
    (refused : calls history = [] → refusalStatus? received = some status)
    (logged : (logEntries history).length = if status ∈ [200, 404, 405] then 0 else 1)
    (level : ∀ entry ∈ logEntries history, entry.level = .error)
    (unrejected : exchange.rejected = none) : AnsweredOnce id received history exchange where
  calls_eq := calls_eq
  timely := timely
  answered_in_order := by
    simp only [answered, List.prefix_rfl]
  response_once := .inr ⟨status, html, response, once⟩
  settled _ _ := once
  sent other same := by
    have equal : status = other := by simpa [response, Response.whole] using same
    subst other
    exact ⟨answered, succeeded, failed, refused, logged, level⟩
  unrejected := unrejected

theorem AnsweredOnce.of_refused {id : ι} {received : Received} {history : List (Occurrence ι)}
    {exchange : Exchange} {status : Int} {html : Text} (noCalls : calls history = [])
    (noOutcomes : outcomes history = []) (expected : expectedCalls received [] = [])
    (response : exchange.response = .whole status html)
    (once : responses history = [(id, exchange.response)])
    (refused : refusalStatus? received = some status) (notShown : status ≠ 200)
    (notFailed : status ≠ 502)
    (logged : (logEntries history).length = if status ∈ [200, 404, 405] then 0 else 1)
    (level : ∀ entry ∈ logEntries history, entry.level = .error)
    (unrejected : exchange.rejected = none) : AnsweredOnce id received history exchange := by
  have timely : Timely received ([] ++ history) := (Timely.start received).append history noCalls
  refine .of_sent ?_ timely ?_ response once ?_ ?_ (fun _ => refused) logged level unrejected
  · rw [noCalls, noOutcomes, expected]
  · rw [noCalls, noOutcomes, List.map_nil]
  · simp [noOutcomes, notShown]
  · simp [noOutcomes, notFailed]

theorem AnsweredOnce.of_called {id : ι} {received : Received} {history : List (Occurrence ι)}
    {exchange : Exchange} {previous : List (NodeCall × Bool)} {last : NodeCall} {succeeded : Bool}
    {html : Text} (calls_eq : calls history = expectedCalls received (outcomes history))
    (timely : Timely received history) (answered : (outcomes history).map (·.1) = calls history)
    (happened : outcomes history = previous ++ [(last, succeeded)])
    (unfailed : ∀ call, (call, false) ∉ previous)
    (response : exchange.response = .whole (if succeeded then 200 else 502) html)
    (once : responses history = [(id, exchange.response)])
    (logged : (logEntries history).length = if succeeded then 0 else 1)
    (level : ∀ entry ∈ logEntries history, entry.level = .error)
    (unrejected : exchange.rejected = none) : AnsweredOnce id received history exchange := by
  refine .of_sent calls_eq timely answered response once ?_ ?_ ?_ ?_ level unrejected
  · rw [happened]
    cases succeeded <;> simp
  · rw [happened]
    cases succeeded <;> simp [unfailed]
  · intro noCalls
    simp [noCalls, happened] at answered
  · rw [logged]
    cases succeeded <;> rfl

theorem refusalStatus?_cases {received : Received} {status : Int}
    (asks : purpose received.request = .submit)
    (refused : refusalStatus? received = some status) :
    status = 500 ∨ status = 413 ∨ status = 400 := by
  obtain ⟨request, delivery⟩ := received
  rw [refusalStatus?, asks] at refused
  cases delivery with
  | incoming chunks => cases refused
  | aborted message => exact .inl (Option.some.inj refused).symm
  | ended chunks =>
      rw [Purpose.refusalStatus?] at refused
      split at refused
      · exact .inr (.inl (Option.some.inj refused).symm)
      · split at refused
        · exact .inr (.inr (Option.some.inj refused).symm)
        · cases refused

theorem failed_response (heading : Text) (body : Body) {cause : Failure} {status : Int}
    (known : cause.responseStatus = status) :
    (Standing.failed heading body cause).exchange.response =
      .whole status (Page.errorPage (Number.integerText status) cause.pageMessage) := by
  rw [← known]
  rfl

theorem Ended.answeredOnce {id : ι} {received : Received} {history : List (Occurrence ι)}
    {standing : Standing} (ended : Ended .listener id received history standing)
    (remote : ∀ call cause, Occurrence.replied id call (.error cause) ∈ history →
      cause.responseStatus = 502) :
    AnsweredOnce id received history standing.exchange := by
  cases ended with
  | unreadable asks =>
      refine .of_refused rfl rfl ?_ rfl rfl ?_ (by decide) (by decide) rfl ?_ rfl
      · simp [expectedCalls, Purpose.calls, asks]
      · simp [refusalStatus?, Purpose.refusalStatus?, asks]
      · intro entry member
        rw [List.mem_singleton.mp member]
  | @refused message status asks =>
      cases which : purpose received.request with
      | otherPath =>
          rw [which] at asks
          obtain ⟨rfl, rfl⟩ := Prod.mk.inj (Option.some.inj asks)
          refine .of_refused rfl rfl ?_ rfl rfl ?_ (by decide) (by decide) rfl nofun rfl
          · simp [expectedCalls, Purpose.calls, which]
          · simp [refusalStatus?, Purpose.refusalStatus?, which]
      | otherMethod =>
          rw [which] at asks
          obtain ⟨rfl, rfl⟩ := Prod.mk.inj (Option.some.inj asks)
          refine .of_refused rfl rfl ?_ rfl rfl ?_ (by decide) (by decide) rfl nofun rfl
          · simp [expectedCalls, Purpose.calls, which]
          · simp [refusalStatus?, Purpose.refusalStatus?, which]
      | _ => simp [which, Purpose.refusal?] at asks
  | unaccepted asks rejected =>
      have refused := refusalStatus?_submit asks rejected
      have status := refusalStatus?_cases asks refused
      refine .of_refused rfl rfl ?_ rfl rfl refused (by omega) (by omega) ?_ ?_ rfl
      · simp [expectedCalls, Purpose.calls, asks, rejected]
      · rw [if_neg]
        · rfl
        · simp only [List.mem_cons, List.not_mem_nil, or_false]
          omega
      · intro entry member
        rw [List.mem_singleton.mp member]
        rfl
  | @runFailed heading body code cause asks accepted =>
      have status : cause.responseStatus = 502 := remote (.run code) cause (by simp)
      refine .of_called ?_ ((timely_run asks accepted).append _ rfl) rfl (List.nil_append _).symm
        nofun (failed_response heading body status) rfl rfl ?_ rfl
      · simp [expectedCalls, Purpose.calls, asks, accepted, outcomes, calls, Occurrence.outcome?,
          Occurrence.call?]
      · intro entry member
        rw [List.mem_singleton.mp member]
        rfl
  | @listed heading body before peers html begun =>
      obtain ⟨noResponse, noEntry⟩ := quiet_begun begun
      refine .of_called ?_ (timely_begun begun rfl) ?_ (outcomes_append _ _)
        (succeeded_begun begun) rfl ?_ ?_ ?_ rfl
      · rw [calls_append, outcomes_append, expectedCalls_begun begun]
        rfl
      · rw [calls_append, outcomes_append, List.map_append, outcomes_begun begun]
        rfl
      · rw [responses_append, noResponse]
        rfl
      · rw [logEntries_append, noEntry]
        rfl
      · rw [logEntries_append, noEntry]
        exact nofun
  | @listFailed heading body before cause begun =>
      have status : cause.responseStatus = 502 := remote .listPeers cause (by simp)
      obtain ⟨noResponse, noEntry⟩ := quiet_begun begun
      refine .of_called ?_ (timely_begun begun rfl) ?_ (outcomes_append _ _) (succeeded_begun begun)
        (failed_response heading body status) ?_ ?_ ?_ rfl
      · rw [calls_append, outcomes_append, expectedCalls_begun begun]
        rfl
      · rw [calls_append, outcomes_append, List.map_append, outcomes_begun begun]
        rfl
      · rw [responses_append, noResponse]
        rfl
      · rw [logEntries_append, noEntry]
        rfl
      · intro entry member
        rw [logEntries_append, noEntry] at member
        rw [List.mem_singleton.mp member]
        rfl

theorem AnsweredOnce.of_open {id : ι} {received : Received} {history : List (Occurrence ι)}
    {exchange : Exchange} (calls_eq : calls history = expectedCalls received (outcomes history))
    (timely : Timely received history)
    (answered_in_order : (outcomes history).map (·.1) <+: calls history)
    (waits : received.delivery.isComplete = true →
      (outcomes history).map (·.1) ≠ calls history)
    (unsent : exchange.response = {}) (none_sent : responses history = [])
    (none_logged : logEntries history = []) (unrejected : exchange.rejected = none) :
    AnsweredOnce id received history exchange where
  calls_eq := calls_eq
  timely := timely
  answered_in_order := answered_in_order
  response_once := .inl ⟨unsent, none_sent, none_logged⟩
  settled complete finished := absurd finished (waits complete)
  sent status same := by simp [unsent] at same
  unrejected := unrejected

theorem Course.answeredOnce {id : ι} {received : Received} {history : List (Occurrence ι)}
    {standing : Standing} (course : Course .listener id (some received) history (some standing))
    (remote : ∀ call cause, Occurrence.replied id call (.error cause) ∈ history →
      cause.responseStatus = 502) :
    AnsweredOnce id received history standing.exchange := by
  cases course with
  | @reading request heading chunks asks =>
      refine .of_open ?_ (Timely.start _) List.nil_prefix nofun rfl rfl rfl rfl
      rw [expectedCalls, asks]
      rfl
  | @running received heading body code asks accepted =>
      refine .of_open ?_ (timely_run asks accepted) List.nil_prefix (fun _ => nofun) rfl rfl rfl rfl
      rw [expectedCalls, asks, accepted]
      rfl
  | @listing received before heading body begun =>
      obtain ⟨noResponse, noEntry⟩ := quiet_begun begun
      have asked : calls (before ++ [.called id .listPeers]) = calls before ++ [.listPeers] :=
        calls_append _ _
      have answered : (outcomes (before ++ [.called id .listPeers])).map (·.1) = calls before := by
        rw [outcomes_append, List.map_append, outcomes_begun begun]
        exact List.append_nil _
      refine .of_open ?_ (timely_begun begun rfl) ?_ ?_ rfl ?_ ?_ rfl
      · rw [asked, outcomes_append, expectedCalls_begun begun]
      · rw [asked, answered]
        exact List.prefix_append _ _
      · rw [asked, answered]
        simp
      · rw [responses_append, noResponse]
        rfl
      · rw [logEntries_append, noEntry]
        rfl
  | closed ended => exact ended.answeredOnce remote

def FailsRemotely (events : List (Event ι)) : Prop :=
  ∀ id reply, .reply id reply ∈ events → ∀ call cause, reply call = .error cause →
    ∃ method message status details, cause = .call method message status details

/-- So they do when the client of the node makes them. -/
theorem FailsRemotely.of_client {events : List (Event ι)}
    (made : ∀ id reply, .reply id reply ∈ events → ∀ call, ∃ outcome,
      reply call = Rpc.reply call outcome) : FailsRemotely events := by
  intro id reply sent call cause fails
  obtain ⟨outcome, same⟩ := made id reply sent call
  exact Rpc.reply_error (same.symm.trans fails)

theorem expectedCalls_known (received : Received) (outcomes : List (NodeCall × Bool))
    (fileName : Text) : .eval fileName ∉ expectedCalls received outcomes := by
  unfold expectedCalls Purpose.calls
  split
  · simp
  · split <;> simp
  · simp

variable [DecidableEq ι]

theorem reached_answeredOnce {events : List (Event ι)} (remote : FailsRemotely events) {id : ι}
    {received : Received} (came : received? id events = some received) :
    ∃ exchange, find? (reached (server .listener) events) id = some exchange ∧
      AnsweredOnce id received (own id (past (server .listener) events)) exchange := by
  obtain ⟨standing?, found, course⟩ := reached_course .listener events id
  rw [came] at course
  obtain ⟨standing, rfl⟩ := course.stands
  refine ⟨standing.exchange, found, course.answeredOnce ?_⟩
  intro call cause member
  obtain ⟨reply, sent, same⟩ :=
    Server.mem_past_replied _ events id call _ (List.mem_filter.mp member).1
  obtain ⟨method, message, status, details, rfl⟩ := remote id reply sent call cause same
  rfl

/-- Whatever overlaps, each request makes its own calls, each once and in its turn, and has one
response once its body is complete and its calls are over. -/
theorem requests_answered_once (events : List (Event ι)) (remote : FailsRemotely events) :
    let history := past (server .listener) events
    (∀ id, received? id events = none → own id history = []) ∧
    (∀ id received, received? id events = some received → ∃ exchange,
      find? (reached (server .listener) events) id = some exchange ∧
      AnsweredOnce id received (own id history) exchange) ∧
    ∀ fileName, .eval fileName ∉ calls history := by
  intro history
  have answered (id : ι) (received : Received) (came : received? id events = some received) :
      ∃ exchange, find? (reached (server .listener) events) id = some exchange ∧
        AnsweredOnce id received (own id history) exchange := reached_answeredOnce remote came
  have untouched (id : ι) (missing : received? id events = none) : own id history = [] := by
    obtain ⟨standing?, _, course⟩ := reached_course .listener events id
    rw [missing] at course
    exact course.of_missing
  refine ⟨untouched, answered, ?_⟩
  intro fileName member
  obtain ⟨occurrence, happened, asked⟩ := List.mem_filterMap.mp member
  have mine : occurrence ∈ own occurrence.id history := by simp [own, happened]
  have called : .eval fileName ∈ calls (own occurrence.id history) :=
    List.mem_filterMap.mpr ⟨occurrence, mine, asked⟩
  cases came : received? occurrence.id events with
  | none =>
      rw [untouched occurrence.id came] at mine
      cases mine
  | some received =>
      obtain ⟨exchange, _, once⟩ := answered occurrence.id received came
      rw [once.calls_eq] at called
      exact expectedCalls_known received _ fileName called

/-- The submissions that cross are answered once each, also when the node is gone later. -/
theorem crossed_answered_once :
    let gone : (call : NodeCall) → Except Failure call.Reply := fun _ =>
      .error (.call "Repl.ListPeers" "14 UNAVAILABLE" (some 14) none)
    let events := crossed ++ [.arrive 3 {}, .reply 3 gone]
    FailsRemotely events ∧
    (∃ exchange, find? (reached (server .listener) events) 2 = some exchange ∧
      AnsweredOnce 2 ⟨posted 98, .ended [[114, 104, 111, 49, 61, 98]]⟩
        (own 2 (past (server .listener) events)) exchange) ∧
    calls (own 2 (past (server .listener) events)) = [.run "b", .listPeers] ∧
    outcomes (own 3 (past (server .listener) events)) = [(.listPeers, false)] := by
  intro gone events
  have remote : FailsRemotely events := by
    intro id reply sent call cause fails
    simp only [events, List.mem_append, List.mem_cons, List.not_mem_nil, or_false, reduceCtorEq,
      false_or, Event.reply.injEq] at sent
    rcases sent with crossing | ⟨_, rfl⟩
    · exact absurd fails (crossed_succeeds crossing call cause)
    · cases fails
      exact ⟨_, _, _, _, rfl⟩
  have came : received? 2 events = some ⟨posted 98, .ended [[114, 104, 111, 49, 61, 98]]⟩ := rfl
  refine ⟨remote, (requests_answered_once events remote).2.1 2 _ came, ?_, ?_⟩
  · decide +kernel
  · decide +kernel

end Ui

end NodeConsole
