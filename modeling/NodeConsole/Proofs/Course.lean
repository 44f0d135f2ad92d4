import NodeConsole.Proofs.Reception

/-!
How a request fares from its arrival to its response. A `Course` relates what has come in of a
request, what has happened about it, and where its exchange stands; turns keep it, so that every
request of every run is on its course (`reached_course`).
-/

namespace NodeConsole.Ui

open Http
open Http.Server (State Event Occurrence find? occurrences past reached own receive received?)

variable {ι : Type}

/-- What has happened before the peers are asked for. -/
inductive Begun (id : ι) (received : Received) : List (Occurrence ι) → Prop
  | view (asks : purpose received.request = .view) : Begun id received []
  | submit {code output} (asks : purpose received.request = .submit)
      (accepted : submitted? received = some (.ok code)) :
      Begun id received [.called id (.run code), .replied id (.run code) (.ok output)]

/-- All that has happened about a request when its exchange is closed. -/
inductive Ended (entry : Http.Entry) (id : ι) (received : Received) :
    List (Occurrence ι) → Standing → Prop
  | unreadable (asks : purpose received.request = .unreadable) :
      Ended entry id received
        ((Exchange.reject entry {} [] .invalidUrl).logs.map (.logged id) ++
          [.finished id (Standing.unreadable entry).exchange])
        (.unreadable entry)
  | refused {message status}
      (asks : (purpose received.request).refusal? = some (message, status)) :
      Ended entry id received
        [.finished id (Standing.refused received.request message status).exchange]
        (.refused received.request message status)
  | unaccepted {heading body cause} (asks : purpose received.request = .submit)
      (rejected : submitted? received = some (.error cause)) :
      Ended entry id received
        [.logged id (failureEntry heading cause),
          .finished id (Standing.failed heading body cause).exchange]
        (.failed heading body cause)
  | runFailed {heading body code cause} (asks : purpose received.request = .submit)
      (accepted : submitted? received = some (.ok code)) :
      Ended entry id received
        [.called id (.run code), .replied id (.run code) (.error cause),
          .logged id (failureEntry heading cause),
          .finished id (Standing.failed heading body cause).exchange]
        (.failed heading body cause)
  | listed {heading body before peers html} (begun : Begun id received before) :
      Ended entry id received
        (before ++ [.called id .listPeers, .replied id .listPeers (.ok peers),
          .finished id (Standing.shown heading body html).exchange])
        (.shown heading body html)
  | listFailed {heading body before cause} (begun : Begun id received before) :
      Ended entry id received
        (before ++ [.called id .listPeers, .replied id .listPeers (.error cause),
          .logged id (failureEntry heading cause),
          .finished id (Standing.failed heading body cause).exchange])
        (.failed heading body cause)

inductive Course (entry : Http.Entry) (id : ι) :
    Option Received → List (Occurrence ι) → Option Standing → Prop
  | absent : Course entry id none [] none
  | reading {request heading chunks} (asks : purpose request = .submit) :
      Course entry id (some ⟨request, .incoming chunks⟩) []
        (some ⟨heading, chunks.foldl Body.receive {}, .reading⟩)
  | running {received heading body code} (asks : purpose received.request = .submit)
      (accepted : submitted? received = some (.ok code)) :
      Course entry id (some received) [.called id (.run code)]
        (some ⟨heading, body, .running code⟩)
  | listing {received before heading body} (begun : Begun id received before) :
      Course entry id (some received) (before ++ [.called id .listPeers])
        (some ⟨heading, body, .listing⟩)
  | closed {received past standing} (ended : Ended entry id received past standing) :
      Course entry id (some received) past (some standing)

theorem Ended.closed {entry : Http.Entry} {id : ι} {received : Received}
    {past : List (Occurrence ι)} {standing : Standing}
    (ended : Ended entry id received past standing) :
    ∃ response outcome rejected, standing.stage = .closed response outcome rejected := by
  cases ended <;> exact ⟨_, _, _, rfl⟩

theorem Begun.next {id : ι} {received : Received} {before : List (Occurrence ι)}
    (begun : Begun id received before) (event : Event ι) :
    Begun id (received.next event) before := by
  cases begun with
  | view asks => exact .view asks
  | submit asks accepted =>
      rw [submitted?_next received event accepted]
      exact .submit asks accepted

theorem Ended.next {entry : Http.Entry} {id : ι} {received : Received} {past : List (Occurrence ι)}
    {standing : Standing} (ended : Ended entry id received past standing) (event : Event ι) :
    Ended entry id (received.next event) past standing := by
  cases ended with
  | unreadable asks => exact .unreadable asks
  | refused asks => exact .refused asks
  | unaccepted asks rejected =>
      rw [submitted?_next received event rejected]
      exact .unaccepted asks rejected
  | runFailed asks accepted =>
      rw [submitted?_next received event accepted]
      exact .runFailed asks accepted
  | listed begun => exact .listed (begun.next event)
  | listFailed begun => exact .listFailed (begun.next event)

theorem Course.of_missing {entry : Http.Entry} {id : ι} {past : List (Occurrence ι)}
    {standing? : Option Standing} (course : Course entry id none past standing?) : past = [] := by
  cases course
  rfl

theorem Course.of_nowhere {entry : Http.Entry} {id : ι} {received? : Option Received}
    {past : List (Occurrence ι)} (course : Course entry id received? past none) : past = [] := by
  cases course
  rfl

theorem Course.stands {entry : Http.Entry} {id : ι} {received : Received}
    {past : List (Occurrence ι)} {standing? : Option Standing}
    (course : Course entry id (some received) past standing?) :
    ∃ standing, standing? = some standing := by
  cases course <;> exact ⟨_, rfl⟩

theorem Course.arrived {entry : Http.Entry} {id : ι} {received? : Option Received}
    {past : List (Occurrence ι)} {standing : Standing}
    (course : Course entry id received? past (some standing)) :
    ∃ received, received? = some received := by
  cases course <;> exact ⟨_, rfl⟩

theorem Course.next {entry : Http.Entry} {id : ι} {received : Received} {past : List (Occurrence ι)}
    {standing : Standing} (course : Course entry id (some received) past (some standing))
    (event : Event ι) (unread : standing.stage = .reading → received.next event = received) :
    Course entry id (some (received.next event)) past (some standing) := by
  cases course with
  | reading asks =>
      rw [unread rfl]
      exact .reading asks
  | running asks accepted =>
      rw [submitted?_next received event accepted]
      exact .running asks accepted
  | listing begun => exact .listing (begun.next event)
  | closed ended => exact .closed (ended.next event)

theorem submitted?_ended (request : Request) (chunks : List (List UInt8)) :
    submitted? ⟨request, .ended chunks⟩ =
      some (codeIn (chunks.foldl Body.receive {}).form) := by
  rw [submitted?, ← Body.form_eq]
  rfl

theorem Course.of_reading {entry : Http.Entry} {id : ι} {received? : Option Received}
    {past : List (Occurrence ι)} {heading : Text} {body : Body}
    (course : Course entry id received? past (some ⟨heading, body, .reading⟩)) :
    ∃ request chunks, received? = some ⟨request, .incoming chunks⟩ ∧ past = [] ∧
      body = chunks.foldl Body.receive {} ∧ purpose request = .submit := by
  cases course with
  | reading asks => exact ⟨_, _, rfl, rfl, rfl, asks⟩
  | closed ended =>
      obtain ⟨response, outcome, rejected, closed⟩ := ended.closed
      cases closed

theorem Course.of_running {entry : Http.Entry} {id : ι} {received? : Option Received}
    {past : List (Occurrence ι)} {heading code : Text} {body : Body}
    (course : Course entry id received? past (some ⟨heading, body, .running code⟩)) :
    ∃ received, received? = some received ∧ past = [.called id (.run code)] ∧
      purpose received.request = .submit ∧ submitted? received = some (.ok code) := by
  cases course with
  | running asks accepted => exact ⟨_, rfl, rfl, asks, accepted⟩
  | closed ended =>
      obtain ⟨response, outcome, rejected, closed⟩ := ended.closed
      cases closed

theorem Course.of_listing {entry : Http.Entry} {id : ι} {received? : Option Received}
    {past : List (Occurrence ι)} {heading : Text} {body : Body}
    (course : Course entry id received? past (some ⟨heading, body, .listing⟩)) :
    ∃ received before, received? = some received ∧ past = before ++ [.called id .listPeers] ∧
      Begun id received before := by
  cases course with
  | listing begun => exact ⟨_, _, rfl, rfl, begun⟩
  | closed ended =>
      obtain ⟨response, outcome, rejected, closed⟩ := ended.closed
      cases closed

theorem Course.of_done {entry : Http.Entry} {id : ι} {received? : Option Received}
    {past : List (Occurrence ι)} {standing : Standing}
    (course : Course entry id received? past (some standing))
    (done : standing.exchange.progress.isDone = true) :
    ∃ received, received? = some received ∧ Ended entry id received past standing := by
  cases course with
  | closed ended => exact ⟨_, rfl, ended⟩
  | _ => cases done

variable [DecidableEq ι]

theorem Course.stays {entry : Http.Entry} {id : ι} {received? : Option Received}
    {past : List (Occurrence ι)} {standing : Standing} {event : Event ι}
    (course : Course entry id received? past (some standing)) (about : event.id = id)
    (unread : standing.stage = .reading → ∀ received : Received,
      received.next event = received) :
    Course entry id (receive id received? event) (past ++ []) (some standing) := by
  obtain ⟨received, rfl⟩ := course.arrived
  rw [Server.receive_own id received event about, List.append_nil]
  exact course.next event fun reading => unread reading received

theorem Course.turn {entry : Http.Entry} {id : ι} {received? : Option Received}
    {past new : List (Occurrence ι)} {standing? next? : Option Standing} {event : Event ι}
    {session later : Session} (course : Course entry id received? past standing?)
    (turn : Turn entry id session standing? event new later next?) (about : event.id = id) :
    Course entry id (receive id received? event) (past ++ new) next? := by
  cases turn with
  | unknown notArrival =>
      cases course
      have missing : receive id none event = none := by
        cases event with
        | arrive other request => exact absurd (by rw [← about]; rfl) (notArrival request)
        | _ => simp [receive]
      rw [missing]
      exact .absent
  | repeated =>
      refine course.stays about fun _ received => ?_
      obtain ⟨request, delivery⟩ := received
      cases delivery <;> rfl
  | late =>
      refine course.stays about fun reading => ?_
      cases reading
  | unread pastBody ofBody => exact course.stays about fun reading => absurd reading pastBody
  | unasked =>
      refine course.stays about fun _ received => ?_
      obtain ⟨request, delivery⟩ := received
      cases delivery <;> rfl
  | unreadable asks =>
      cases course
      rw [Server.receive_arrival]
      exact .closed (.unreadable asks)
  | refused asks =>
      cases course
      rw [Server.receive_arrival]
      exact .closed (.refused asks)
  | viewed asks =>
      cases course
      rw [Server.receive_arrival]
      exact .listing (.view asks)
  | admitted asks =>
      cases course
      rw [Server.receive_arrival]
      exact .reading asks
  | @extended heading body content =>
      obtain ⟨request, chunks, rfl, rfl, rfl, asks⟩ := course.of_reading
      have grown : (chunks.foldl Body.receive {}).receive content =
          (chunks ++ [content]).foldl Body.receive {} := by
        simp [List.foldl_append]
      rw [Server.receive_own id _ _ about, grown]
      exact .reading asks
  | submitted accepted =>
      obtain ⟨request, chunks, rfl, rfl, rfl, asks⟩ := course.of_reading
      rw [Server.receive_own id _ _ about]
      exact .running asks ((submitted?_ended request chunks).trans (congrArg some accepted))
  | unaccepted rejected =>
      obtain ⟨request, chunks, rfl, rfl, rfl, asks⟩ := course.of_reading
      rw [Server.receive_own id _ _ about]
      exact .closed (.unaccepted asks
        ((submitted?_ended request chunks).trans (congrArg some rejected)))
  | aborted =>
      obtain ⟨request, chunks, rfl, rfl, rfl, asks⟩ := course.of_reading
      rw [Server.receive_own id _ _ about]
      exact .closed (.unaccepted asks rfl)
  | ran succeeds =>
      obtain ⟨received, rfl, rfl, asks, accepted⟩ := course.of_running
      rw [Server.receive_own id _ _ about, submitted?_next received _ accepted]
      exact .listing (.submit asks accepted)
  | runFailed fails =>
      obtain ⟨received, rfl, rfl, asks, accepted⟩ := course.of_running
      rw [Server.receive_own id _ _ about, submitted?_next received _ accepted]
      exact .closed (.runFailed asks accepted)
  | listed succeeds =>
      obtain ⟨received, before, rfl, rfl, begun⟩ := course.of_listing
      rw [Server.receive_own id _ _ about, List.append_assoc]
      exact .closed (.listed (begun.next _))
  | listFailed fails =>
      obtain ⟨received, before, rfl, rfl, begun⟩ := course.of_listing
      rw [Server.receive_own id _ _ about, List.append_assoc]
      exact .closed (.listFailed (begun.next _))

/-! Every request of every run is on its course, also while others are. -/

theorem reached_course (entry : Http.Entry) (events : List (Event ι)) (id : ι) :
    ∃ standing?, find? (reached (server entry) events) id = standing?.map Standing.exchange ∧
      Course entry id (received? id events) (own id (past (server entry) events)) standing? := by
  induction events using List.reverseRecOn with
  | nil => exact ⟨none, rfl, .absent⟩
  | append_singleton events event ih =>
      obtain ⟨standing?, found, course⟩ := ih
      rw [Server.reached_concat, Server.past_concat, Server.received?_concat, own,
        List.filter_append]
      change ∃ next?, _ ∧ Course entry id _ (own id (past (server entry) events) ++
        own id (occurrences (server entry) (reached (server entry) events) event)) next?
      rw [Server.own_occurrences]
      by_cases about : event.id = id
      · rw [if_pos about]
        subst about
        obtain ⟨next?, located, turn⟩ :=
          step_turn entry (reached (server entry) events) event standing? found
        exact ⟨next?, located, course.turn turn rfl⟩
      · refine ⟨standing?, ?_, ?_⟩
        · rw [Server.find?_step_other (server entry) _ event id (Ne.symm about), found]
        · rw [if_neg about, List.append_nil, Server.receive_other id _ event about]
          exact course

/-- The next event of a run is a turn, from a standing on course. -/
theorem reached_turn (entry : Http.Entry) (events : List (Event ι)) (event : Event ι) :
    ∃ standing? next?,
      find? (reached (server entry) events) event.id = standing?.map Standing.exchange ∧
      Course entry event.id (received? event.id events)
        (own event.id (past (server entry) events)) standing? ∧
      Turn entry event.id (reached (server entry) events).session standing? event
        (occurrences (server entry) (reached (server entry) events) event)
        (reached (server entry) (events ++ [event])).session next? := by
  obtain ⟨standing?, found, course⟩ := reached_course entry events event.id
  obtain ⟨next?, _, turn⟩ := step_turn entry (reached (server entry) events) event standing? found
  rw [Server.reached_concat]
  exact ⟨standing?, next?, found, course, turn⟩

/-! Two submissions that cross: the node answers the first one last. -/

def posted (code : UInt8) : Request where
  method := some "POST"
  body := [[114, 104, 111, 49, 61, code]]

def answering (output : Text) : (call : NodeCall) → Except Failure call.Reply
  | .run _ => .ok output
  | .eval _ => .ok output
  | .listPeers => .ok []

def crossed : List (Event Nat) :=
  [.arrive 1 (posted 97)] ++ Server.bodyEvents 1 (posted 97) ++
  [.arrive 2 (posted 98)] ++ Server.bodyEvents 2 (posted 98) ++
  [.reply 2 (answering "B"), .reply 1 (answering "A"), .reply 2 (answering "B"),
    .reply 1 (answering "A")]

theorem crossed_succeeds {id : Nat} {reply : (call : NodeCall) → Except Failure call.Reply}
    (sent : .reply id reply ∈ crossed) (call : NodeCall) (cause : Failure) :
    reply call ≠ .error cause := by
  have known : reply = answering "A" ∨ reply = answering "B" := by
    simp [crossed, Server.bodyEvents, posted] at sent
    tauto
  rcases known with rfl | rfl
  · cases call <;> exact nofun
  · cases call <;> exact nofun

example :
    Server.submissions (past (server .listener) crossed) = [(1, ("a" : Text)), (2, ("b" : Text))] ∧
    Server.results (past (server .listener) crossed) = [(2, ("B" : Text)), (1, ("A" : Text))] := by
  decide +kernel

end NodeConsole.Ui
