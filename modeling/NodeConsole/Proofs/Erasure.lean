import NodeConsole.Proofs.Memory

/-!
What a run loses when requests are taken out of it. As long as these leave the session alone, the
others notice nothing: the shorter run is the longer one without what happened about the requests
that are gone (`past_erase`). On the server of the page all requests leave the session alone that
do not submit code.
-/

namespace NodeConsole

namespace Http.Server

variable {ι : Type} [DecidableEq ι]

structure Agree (erased : ι → Bool) (left right : State ι) : Prop where
  session : left.session = right.session
  exchange : ∀ id, erased id = false → find? left id = find? right id

theorem Agree.after {erased : ι → Bool} {left right : State ι} (agree : Agree erased left right)
    (id : ι) (step : Step Unit) :
    Agree erased (after left id step).1 (Server.after right id step).1 where
  session := rfl
  exchange other stays := by
    rw [find?_after, find?_after, agree.exchange other stays]

theorem Agree.move {erased : ι → Bool} {left right : State ι} (agree : Agree erased left right)
    (id : ι) (stays : erased id = false) (act : Exchange → Step Unit) :
    (move left id act).2 = (Server.move right id act).2 ∧
      Agree erased (Server.move left id act).1 (Server.move right id act).1 := by
  have same := agree.exchange id stays
  unfold Server.move
  rw [same]
  cases find? right id with
  | none => exact ⟨rfl, agree⟩
  | some exchange =>
      by_cases done : exchange.progress.isDone = true
      · simp only [done, if_true]
        exact ⟨trivial, agree⟩
      · simp only [done]
        exact ⟨rfl, agree.after id (act exchange)⟩

theorem Agree.arriving {erased : ι → Bool} {left right : State ι} (agree : Agree erased left right)
    (event : Event ι) (stays : erased event.id = false) :
    arriving left event = Server.arriving right event := by
  cases event with
  | reply id reply =>
      have same : find? left id = find? right id := agree.exchange id stays
      simp only [Server.arriving, awaited?, same]
  | _ => rfl

theorem Agree.step {erased : ι → Bool} {left right : State ι} (agree : Agree erased left right)
    (server : Server) (event : Event ι) (stays : erased event.id = false) :
    occurrences server left event = occurrences server right event ∧
      Agree erased (server.step left event).1 (server.step right event).1 := by
  have stepped : (server.step left event).2 = (server.step right event).2 ∧
      Agree erased (server.step left event).1 (server.step right event).1 := by
    cases event with
    | arrive id request =>
        have same : find? left id = find? right id := agree.exchange id stays
        simp only [Server.step, same, agree.session]
        cases find? right id with
        | none => exact ⟨rfl, agree.after id _⟩
        | some exchange => exact ⟨rfl, agree⟩
    | _ =>
        simp only [Server.step, agree.session]
        exact agree.move _ stays _
  refine ⟨?_, stepped.2⟩
  rw [occurrences, occurrences, agree.arriving event stays, stepped.1]

/-- An event of a request that is gone is not missed if it leaves the session as it is. -/
theorem Agree.skip {erased : ι → Bool} {left right : State ι} (agree : Agree erased left right)
    (server : Server) (event : Event ι) (gone : erased event.id = true)
    (quiet : (server.step left event).1.session = left.session) :
    Agree erased (server.step left event).1 right where
  session := quiet.trans agree.session
  exchange id stays := by
    have different : id ≠ event.id := by
      intro same
      rw [same, gone] at stays
      cases stays
    rw [find?_step_other server left event id different, agree.exchange id stays]

def erase (erased : ι → Bool) (events : List (Event ι)) : List (Event ι) :=
  events.filter fun event => !erased event.id

def Quiet (server : Server) (erased : ι → Bool) (events : List (Event ι)) : Prop :=
  ∀ before event, before ++ [event] <+: events → erased event.id = true →
    (reached server (before ++ [event])).session = (reached server before).session

omit [DecidableEq ι] in
theorem filter_occurrences {erased : ι → Bool} {id : ι} {happened : List (Occurrence ι)}
    (about : ∀ occurrence ∈ happened, occurrence.id = id) :
    happened.filter (fun occurrence => !erased occurrence.id) =
      if erased id then [] else happened := by
  by_cases gone : erased id = true
  · rw [if_pos gone, List.filter_eq_nil_iff]
    intro occurrence member
    simp [about occurrence member, gone]
  · rw [if_neg gone, List.filter_eq_self]
    intro occurrence member
    simpa [about occurrence member] using gone

/-- The run that is left when quiet requests are taken out: it comes to states that agree with
those of the whole run, and its past is that of the whole run without these requests. -/
theorem past_erase (server : Server) (erased : ι → Bool) (events : List (Event ι))
    (quiet : Quiet server erased events) :
    Agree erased (reached server events) (reached server (erase erased events)) ∧
      past server (erase erased events) =
        (past server events).filter fun occurrence => !erased occurrence.id := by
  -- the last event is done by both runs, or missed by the shorter one
  induction events using List.reverseRecOn with
  | nil => exact ⟨⟨rfl, fun _ _ => rfl⟩, rfl⟩
  | append_singleton events event ih =>
      obtain ⟨agree, same⟩ := ih fun before other within =>
        quiet before other (within.trans (List.prefix_append events [event]))
      have about := occurrences_about server (reached server events) event
      rw [past_concat, List.filter_append, filter_occurrences about, ← same]
      by_cases gone : erased event.id = true
      · have shorter : erase erased (events ++ [event]) = erase erased events := by
          simp [erase, gone]
        have still := quiet events event List.prefix_rfl gone
        rw [reached_concat] at still ⊢
        rw [shorter, if_pos gone, List.append_nil]
        exact ⟨agree.skip server event gone still, rfl⟩
      · have stays : erased event.id = false := by simpa using gone
        have longer : erase erased (events ++ [event]) = erase erased events ++ [event] := by
          simp [erase, stays]
        obtain ⟨happened, next⟩ := agree.step server event stays
        rw [longer, reached_concat, reached_concat, past_concat, if_neg gone, happened]
        exact ⟨next, rfl⟩

theorem own_filter (erased : ι → Bool) (id : ι) (stays : erased id = false)
    (past : List (Occurrence ι)) :
    own id (past.filter fun occurrence => !erased occurrence.id) = own id past := by
  rw [own, List.filter_filter]
  refine List.filter_congr ?_
  intro occurrence _
  by_cases same : occurrence.id = id
  · simp [same, stays]
  · simp [same]

end Http.Server

namespace Ui

open Http
open Http.Server (Event Occurrence find? past reached own receive received? awaited? occurrences
  submissions results responses erase Quiet)

/-- A request that submits code: it posts a form that comes in whole and has the code. -/
def Accepted (received : Received) : Prop :=
  purpose received.request = .submit ∧ ∃ code, submitted? received = some (.ok code)

variable {ι : Type} [DecidableEq ι]

theorem Accepted.received?_append {id : ι} {received : Received} (accepted : Accepted received)
    {events : List (Event ι)} (came : received? id events = some received)
    (more : List (Event ι)) : received? id (events ++ more) = some received := by
  obtain ⟨_, code, submitted⟩ := accepted
  induction more using List.reverseRecOn with
  | nil => rw [List.append_nil, came]
  | append_singleton more event ih =>
      rw [← List.append_assoc, Server.received?_concat, ih]
      by_cases about : event.id = id
      · rw [Server.receive_own id received event about, submitted?_next received event submitted]
      · exact Server.receive_other id _ event about

/-- Only a request that submits code changes the session. -/
theorem Turn.kept_or_accepted {entry : Http.Entry} {id : ι} {session later : Session}
    {event : Event ι} {came : Option Received} {history new : List (Occurrence ι)}
    {standing? next? : Option Standing}
    (turn : Turn entry id session standing? event new later next?)
    (course : Course entry id came history standing?) (about : event.id = id) :
    later = session ∨ ∃ received, receive id came event = some received ∧ Accepted received := by
  have moved := course.turn turn about
  cases turn with
  | submitted accepted =>
      obtain ⟨received, came, _, asks, submitted⟩ := moved.of_running
      exact .inr ⟨received, came, asks, _, submitted⟩
  | ran succeeds =>
      obtain ⟨received, rfl, _, asks, submitted⟩ := course.of_running
      refine .inr ⟨received, ?_, asks, _, submitted⟩
      rw [Server.receive_own id received _ about, submitted?_next received _ submitted]
  | _ => exact .inl rfl

theorem quiet_of_unaccepted (entry : Http.Entry) (erased : ι → Bool) (events : List (Event ι))
    (unaccepted : ∀ id received, erased id = true → received? id events = some received →
      ¬ Accepted received) : Quiet (server entry) erased events := by
  rintro before event ⟨after, rfl⟩ gone
  obtain ⟨standing?, next?, _, course, turn⟩ := reached_turn entry before event
  rcases turn.kept_or_accepted course rfl with same | ⟨received, came, accepted⟩
  · exact same
  · rw [← Server.received?_concat] at came
    have still := accepted.received?_append came after
    exact absurd accepted (unaccepted event.id received gone still)

omit [DecidableEq ι] in
theorem remembered_unchanged (session : Session) (past : List (Occurrence ι))
    (noSubmission : submissions past = []) (noResult : results past = []) :
    past.foldl remember session = session := by
  have code := remembered_code session past
  have store := remembered_store session past
  have phase := remembered_phase session past
  rw [noSubmission] at code
  rw [noResult] at store phase
  generalize past.foldl remember session = later at code store phase
  cases later
  cases session
  cases code
  cases store
  cases phase
  rfl

theorem peers_bring_page (entry : Http.Entry) (before : List (Event ι)) (id : ι)
    (reply : (call : NodeCall) → Except Failure call.Reply) (peers : List Text)
    (awaits : awaited? (reached (server entry) before) id = some .listPeers)
    (succeeds : reply .listPeers = .ok peers) :
    responses (occurrences (server entry) (reached (server entry) before) (.reply id reply)) =
      [(id, .whole 200 (page peers (reached (server entry) before).session))] := by
  obtain ⟨standing?, next?, found, _, turn⟩ := reached_turn entry before (.reply id reply)
  have waiting : standing?.bind (fun standing => standing.stage.progress.awaited?) =
      some .listPeers := by
    rw [← awaits]
    cases standing? with
    | none =>
        have absent : find? (reached (server entry) before) id = none := found
        simp [awaited?, absent]
    | some standing => exact (awaited?_eq _ id standing found).symm
  generalize occurrences (server entry) (reached (server entry) before) (.reply id reply) = new
    at turn ⊢
  generalize (reached (server entry) (before ++ [.reply id reply])).session = later at turn
  cases turn with
  | unknown notArrival => cases waiting
  | late => cases waiting
  | unread pastBody ofBody => simp at ofBody
  | unasked => cases waiting
  | ran => cases waiting
  | runFailed => cases waiting
  | listed listing =>
      rw [succeeds] at listing
      cases listing
      rfl
  | listFailed fails =>
      rw [succeeds] at fails
      cases fails

/-- Requests that submit no code can be taken out of a run: what happens about all others stays as
it is, byte by byte and in the same order, and so does the session at every moment. Pages for the
same peers are the same as long as no code is sent and no result comes between them. -/
theorem unsubmitting_requests_invisible (entry : Http.Entry) (events : List (Event ι))
    (erased : ι → Bool)
    (unaccepted : ∀ id received, erased id = true → received? id events = some received →
      ¬ Accepted received) :
    past (server entry) (erase erased events) =
      (past (server entry) events).filter (fun occurrence => !erased occurrence.id) ∧
    (∀ id, erased id = false →
      own id (past (server entry) (erase erased events)) = own id (past (server entry) events)) ∧
    (∀ before, before <+: events →
      erase erased before <+: erase erased events ∧
      (reached (server entry) (erase erased before)).session =
        (reached (server entry) before).session) ∧
    ∀ before first second reply again middle after peers,
      events = before ++ .reply first reply :: middle ++ .reply second again :: after →
      awaited? (reached (server entry) before) first = some .listPeers →
      awaited? (reached (server entry) (before ++ .reply first reply :: middle)) second =
        some .listPeers →
      reply .listPeers = .ok peers → again .listPeers = .ok peers →
      submissions (Server.pastFrom (server entry) (reached (server entry) before)
        (.reply first reply :: middle)) = [] →
      results (Server.pastFrom (server entry) (reached (server entry) before)
        (.reply first reply :: middle)) = [] →
      ∃ response, (first, response) ∈ responses (past (server entry) events) ∧
        (second, response) ∈ responses (past (server entry) events) := by
  have quiet := quiet_of_unaccepted entry erased events unaccepted
  obtain ⟨_, shorter⟩ := Server.past_erase (server entry) erased events quiet
  refine ⟨shorter, ?_, ?_, ?_⟩
  · intro id stays
    rw [shorter, Server.own_filter erased id stays]
  · rintro before ⟨after, rfl⟩
    have quietBefore : Quiet (server entry) erased before := fun sooner event within =>
      quiet sooner event (within.trans (List.prefix_append before after))
    obtain ⟨agree, _⟩ := Server.past_erase (server entry) erased before quietBefore
    refine ⟨⟨erase erased after, ?_⟩, agree.session.symm⟩
    rw [erase, erase, erase, List.filter_append]
  · rintro before first second reply again middle after peers rfl firstAwaits secondAwaits
      firstPeers secondPeers noSubmission noResult
    have firstPage := peers_bring_page entry before first reply peers firstAwaits firstPeers
    have secondPage := peers_bring_page entry (before ++ .reply first reply :: middle) second again
      peers secondAwaits secondPeers
    have same : (reached (server entry) (before ++ .reply first reply :: middle)).session =
        (reached (server entry) before).session := by
      rw [reached_session, reached_session, Server.past_append, List.foldl_append,
        remembered_unchanged _ _ noSubmission noResult]
    rw [same] at secondPage
    refine ⟨.whole 200 (page peers (reached (server entry) before).session), ?_, ?_⟩
    · rw [List.append_assoc, Server.past_append, List.cons_append, Server.pastFrom,
        Server.responses_append, Server.responses_append, firstPage]
      simp
    · rw [Server.past_append, Server.pastFrom, Server.responses_append, Server.responses_append,
        secondPage]
      simp

/-- A run in which a page fails, a form lacks its code and a path is unknown, all while another
request submits code: without these three the submission fares no differently. -/
theorem disturbed_submission :
    let gone : (call : NodeCall) → Except Failure call.Reply := fun _ =>
      .error (.call "Diagnostics.ListPeers" "14 UNAVAILABLE" (some 14) none)
    let events : List (Event Nat) :=
      [.arrive 3 {}, .arrive 1 (posted 97), .arrive 4 { method := some "POST" }, .chunk 4 [120]] ++
      Server.bodyEvents 1 (posted 97) ++
      [.reply 3 gone, .bodyEnd 4, .reply 1 (answering "A"), .arrive 5 { target := some "/x" },
        .arrive 6 {}, .reply 1 (answering "A"), .reply 6 (answering "A")]
    let erased : Nat → Bool := fun id => [3, 4, 5].contains id
    (responses (past (server .listener) events)).map
      (fun sent => (sent.1, sent.2.head.map (·.status))) =
      [(3, some 502), (4, some 400), (5, some 404), (1, some 200), (6, some 200)] ∧
    (∀ id received, erased id = true → received? id events = some received →
      ¬ Accepted received) ∧
    own 1 (past (server .listener) (erase erased events)) =
      own 1 (past (server .listener) events) ∧
    ∃ response, (1, response) ∈ responses (past (server .listener) events) ∧
      (6, response) ∈ responses (past (server .listener) events) := by
  intro gone events erased
  have unaccepted : ∀ id received, erased id = true → received? id events = some received →
      ¬ Accepted received := by
    rintro id received chosen came ⟨asks, code, submitted⟩
    have known : id = 3 ∨ id = 4 ∨ id = 5 := by simpa [erased] using chosen
    rcases known with rfl | rfl | rfl
    · cases came
      exact absurd asks (by decide +kernel)
    · cases came
      have lacking : submitted? ⟨{ method := some "POST" }, .ended [[120]]⟩ =
          some (.error (.missingField codeField)) := rfl
      cases lacking.symm.trans submitted
    · cases came
      exact absurd asks (by decide +kernel)
  obtain ⟨_, untouched, _, samePage⟩ :=
    unsubmitting_requests_invisible .listener events erased unaccepted
  refine ⟨by decide +kernel, unaccepted, untouched 1 rfl, ?_⟩
  refine samePage (events.take 11) 1 6 (answering "A") (answering "A") [] [] [] rfl ?_ ?_ rfl rfl
    ?_ ?_
  · decide +kernel
  · decide +kernel
  · decide +kernel
  · decide +kernel

end Ui

end NodeConsole
