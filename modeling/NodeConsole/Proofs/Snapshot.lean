import NodeConsole.Proofs.Answering
import NodeConsole.Proofs.Memory

/-!
What a page shows while other requests are under way: the session as it is at the moment when the
peers come, and for a submission nothing older than its own code and its own result.
-/

namespace NodeConsole.Ui

open Http
open Http.Server (Event Occurrence find? past reached own received? awaited? submissions results
  responses)

variable {ι : Type}

theorem refusal?_status {request : Request} {message : Text} {status : Int}
    (asks : (purpose request).refusal? = some (message, status)) : status ≠ 200 := by
  cases which : purpose request with
  | otherPath =>
      rw [which] at asks
      rw [← (Prod.mk.inj (Option.some.inj asks)).2]
      decide
  | otherMethod =>
      rw [which] at asks
      rw [← (Prod.mk.inj (Option.some.inj asks)).2]
      decide
  | _ => simp [which, Purpose.refusal?] at asks

/-- A response of status 200 is a page, sent when the peers come. -/
theorem Turn.shown {entry : Http.Entry} {id : ι} {session later : Session} {event : Event ι}
    {received? : Option Received} {history new : List (Occurrence ι)}
    {standing? next? : Option Standing} {exchange : Exchange}
    (turn : Turn entry id session standing? event new later next?)
    (course : Course entry id received? history standing?)
    (finished : .finished id exchange ∈ new)
    (shown : exchange.response.head.map (·.status) = some 200)
    (failures : ∀ reply, event = .reply id reply → ∀ call cause, reply call = .error cause →
      cause.responseStatus ≠ 200) :
    ∃ heading body reply peers, standing? = some ⟨heading, body, .listing⟩ ∧
      event = .reply id reply ∧ reply .listPeers = .ok peers ∧ later = session ∧
      exchange.response = .whole 200 (page peers session) := by
  have failed_status (heading : Text) (body : Body) (cause : Failure)
      (same : exchange = (Standing.failed heading body cause).exchange) :
      cause.responseStatus = 200 := by
    rw [same] at shown
    exact Option.some.inj shown
  cases turn with
  | unreadable asks =>
      cases entry with
      | dispatcher =>
          have same : exchange = (Standing.unreadable .dispatcher).exchange := by
            simpa [Exchange.reject] using finished
          rw [same] at shown
          cases shown
      | listener =>
          have same : exchange = (Standing.unreadable .listener).exchange := by
            simpa [Exchange.reject] using finished
          rw [same] at shown
          cases shown
  | refused asks =>
      have same := (Occurrence.finished.inj (List.mem_singleton.mp finished)).2
      rw [same] at shown
      exact absurd (Option.some.inj shown) (refusal?_status asks)
  | @unaccepted heading body cause rejected =>
      have same : exchange = (Standing.failed heading body cause).exchange := by
        simpa using finished
      obtain ⟨request, chunks, rfl, rfl, rfl, asks⟩ := course.of_reading
      have posted : purpose (Received.request ⟨request, .ended chunks⟩) = .submit := asks
      have submitted : submitted? ⟨request, .ended chunks⟩ = some (.error cause) := by
        rw [submitted?_ended, rejected]
      have refused := refusalStatus?_cases posted (refusalStatus?_submit posted submitted)
      have status := failed_status _ _ _ same
      omega
  | @aborted heading body message =>
      have same : exchange = (Standing.failed heading body (.foreign message)).exchange := by
        simpa using finished
      have status : (500 : Int) = 200 := failed_status _ _ _ same
      exact absurd status (by decide)
  | @runFailed heading body code reply cause fails =>
      have same : exchange = (Standing.failed heading body cause).exchange := by
        simpa using finished
      exact absurd (failed_status _ _ _ same) (failures reply rfl _ cause fails)
  | @listFailed heading body reply cause fails =>
      have same : exchange = (Standing.failed heading body cause).exchange := by
        simpa using finished
      exact absurd (failed_status _ _ _ same) (failures reply rfl _ cause fails)
  | @listed heading body reply peers succeeds =>
      have same : exchange = (Standing.shown heading body (page peers session)).exchange := by
        simpa using finished
      refine ⟨heading, body, reply, peers, rfl, rfl, succeeds, rfl, ?_⟩
      rw [same]
      rfl
  | _ => simp at finished

/-- What the session is after a submission and its result, whatever lies around them. -/
theorem remembered_since (id : ι) (code output : Text)
    (earlier middle later : List (Occurrence ι)) :
    let session := (earlier ++ .called id (.run code) :: middle ++
      .replied id (.run code) (.ok output) :: later).foldl remember Session.fresh
    session.code = ((submissions (middle ++ later)).getLast?.map (·.2)).getD code ∧
    session.store = ((results later).getLast?.map fun result => Page.layOutStore result.2).getD
      (Page.layOutStore output) := by
  intro session
  constructor
  · have since : session = (middle ++ .replied id (.run code) (.ok output) :: later).foldl remember
        ((earlier.foldl remember Session.fresh).submit code) := by
      simp [session, List.foldl_append, remember]
    have same : submissions (middle ++ .replied id (.run code) (.ok output) :: later) =
        submissions (middle ++ later) := by
      rw [Server.submissions_append, Server.submissions_append]
      rfl
    rw [since, remembered_code, same]
    rfl
  · have since : session = later.foldl remember (((earlier ++ .called id (.run code) ::
        middle).foldl remember Session.fresh).complete (Page.layOutStore output)) := by
      simp [session, List.foldl_append, remember]
    rw [since, remembered_store]
    rfl

variable [DecidableEq ι]

theorem own_submission {id : ι} {code output : Text} {past : List (Occurrence ι)}
    (mine : own id past = [.called id (.run code), .replied id (.run code) (.ok output),
      .called id .listPeers]) :
    ∃ earlier middle later, past = earlier ++ .called id (.run code) :: middle ++
      .replied id (.run code) (.ok output) :: later := by
  obtain ⟨earlier, rest, rfl, _, _, own_rest⟩ := List.filter_eq_cons_iff.mp mine
  obtain ⟨middle, later, rfl, _, _, _⟩ := List.filter_eq_cons_iff.mp own_rest
  exact ⟨earlier, middle, later, by simp⟩

/-- Every page is a snapshot of the session at one moment, the one when the request's peers come.
A submission's page has its own code and its own result, or newer ones of others. -/
theorem page_shows_moment (entry : Http.Entry) (events : List (Event ι)) (id : ι)
    (response : Response)
    (failures : ∀ other reply, .reply other reply ∈ events → ∀ call cause,
      reply call = .error cause → cause.responseStatus ≠ 200)
    (sent : (id, response) ∈ responses (past (server entry) events))
    (shown : response.head.map (·.status) = some 200) :
    ∃ before reply peers after, events = before ++ .reply id reply :: after ∧
      awaited? (reached (server entry) before) id = some .listPeers ∧
      reply .listPeers = .ok peers ∧
      let session := (reached (server entry) before).session
      (reached (server entry) (before ++ [.reply id reply])).session = session ∧
      response = .whole 200 (page peers session) ∧
      ∃ received, received? id before = some received ∧
        (purpose received.request = .view ∨
          purpose received.request = .submit ∧ ∃ code output earlier middle later,
            submitted? received = some (.ok code) ∧
            past (server entry) before = earlier ++ .called id (.run code) :: middle ++
              .replied id (.run code) (.ok output) :: later ∧
            session.code = ((submissions (middle ++ later)).getLast?.map (·.2)).getD code ∧
            session.store = ((results later).getLast?.map fun result =>
              Page.layOutStore result.2).getD (Page.layOutStore output) ∧
            (submissions (middle ++ later) = [] → results later = [] →
              response = .whole 200 (Page.diagnostics
                { peers, code, store := Page.layOutStore output }))) := by
  obtain ⟨occurrence, happened, read⟩ := List.mem_filterMap.mp sent
  obtain ⟨exchange, rfl, rfl⟩ : ∃ exchange, occurrence = .finished id exchange ∧
      exchange.response = response := by
    cases occurrence with
    | finished name exchange =>
        obtain ⟨rfl, rfl⟩ := Prod.mk.inj (Option.some.inj read)
        exact ⟨exchange, rfl, rfl⟩
    | _ => cases read
  obtain ⟨before, event, after, rfl, finished⟩ := Server.mem_past _ events _ happened
  have about : id = event.id := Server.occurrences_about _ _ event _ finished
  obtain ⟨standing?, next?, found, course, turn⟩ := reached_turn entry before event
  rw [← about] at found course turn
  obtain ⟨heading, body, reply, peers, rfl, rfl, succeeds, same, snapshot⟩ :=
    turn.shown course finished shown fun reply same => by
      subst same
      exact failures id reply (by simp)
  obtain ⟨received, begun, came, history, started⟩ := course.of_listing
  refine ⟨before, reply, peers, after, rfl, awaited?_eq _ id _ found, succeeds, same, snapshot,
    received, came, ?_⟩
  cases started with
  | view asks => exact .inl asks
  | @submit code output asks accepted =>
      obtain ⟨earlier, middle, later, split⟩ := own_submission history
      have remembered := reached_session entry before
      rw [split] at remembered
      obtain ⟨shownCode, shownStore⟩ := remembered_since id code output earlier middle later
      rw [← remembered] at shownCode shownStore
      refine .inr ⟨asks, code, output, earlier, middle, later, accepted, split, shownCode,
        shownStore, ?_⟩
      intro noSubmission noResult
      rw [snapshot, page, shownCode, shownStore, noSubmission, noResult]
      rfl

theorem crossed_page :
    ∃ response, (2, response) ∈ responses (past (server .listener) crossed) ∧
      ∃ before reply peers after, crossed = before ++ .reply 2 reply :: after ∧
        awaited? (reached (server .listener) before) 2 = some .listPeers ∧
        reply .listPeers = .ok peers ∧
        response = .whole 200 (page peers (reached (server .listener) before).session) := by
  have failures : ∀ other reply, .reply other reply ∈ crossed → ∀ call cause,
      reply call = .error cause → cause.responseStatus ≠ 200 := by
    intro other reply member call cause fails
    exact absurd fails (crossed_succeeds member call cause)
  have answered : ((responses (past (server .listener) crossed)).any fun item =>
      item.1 = 2 ∧ item.2.head.map (·.status) = some 200) = true := by
    decide +kernel
  obtain ⟨⟨name, response⟩, sent, same⟩ := List.any_eq_true.mp answered
  obtain ⟨rfl, shown⟩ := of_decide_eq_true same
  obtain ⟨before, reply, peers, after, split, awaited, succeeds, _, snapshot, _⟩ :=
    page_shows_moment .listener crossed 2 response failures sent shown
  exact ⟨response, sent, before, reply, peers, after, split, awaited, succeeds, snapshot⟩

end NodeConsole.Ui
