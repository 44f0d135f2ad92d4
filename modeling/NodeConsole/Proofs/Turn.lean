import NodeConsole.Proofs.History
import NodeConsole.Ui

/-!
What an event does about its request on the server of the page. A `Standing` is where an exchange
of the page can stand, and a `Turn` is one thing that can happen to it next. Every step of the
server is a turn (`step_turn`), so that facts about runs go by cases on turns and need not open the
handlers again.
-/

namespace NodeConsole

namespace Http

def Response.whole (status : Int) (html : Text) : Response where
  head := some { status, headers := Response.htmlHeaders }
  body := html
  ends := 1

def Response.ofError (message : Text) (status : Int) : Response :=
  .whole status (Page.errorPage (Number.integerText status) message)

def Response.ofFailure (cause : Failure) : Response :=
  .ofError cause.pageMessage cause.responseStatus

def failureEntry (heading : Text) (cause : Failure) : LogEntry where
  level := .error
  text := heading ++ " failed:"
  cause := some cause

def Request.heading (request : Request) : Text :=
  match request.url? with
  | none => ""
  | some url => request.methodName ++ " " ++ url.pathname

theorem Exchange.refuse_eq (entry : Http.Entry) (message : Text) (status : Int) :
    refuse entry message status =
      { response := .ofError message status, logs := [], rejected := none } := by
  rfl

end Http

namespace Ui

open Http
open Http.Server (State Event Occurrence Notice find? after move awaited? arriving occurrences)

inductive Purpose where
  | unreadable
  | otherPath
  | otherMethod
  | view
  | submit
deriving DecidableEq, Repr

def purpose (request : Request) : Purpose :=
  match request.url? with
  | none => .unreadable
  | some url =>
    if (url.pathname : Text) ≠ "/" then .otherPath
    else if request.methodName = "GET" then .view
    else if request.methodName = "POST" then .submit
    else .otherMethod

def Purpose.refusal? : Purpose → Option (Text × Int)
  | .otherPath => some ("Not Found", 404)
  | .otherMethod => some ("Method Not Allowed", 405)
  | _ => none

def codeIn (form : Except Failure Form) : Except Failure Text :=
  match form with
  | .error cause => .error cause
  | .ok fields =>
    match fields.get? codeField with
    | none => .error (.missingField codeField)
    | some code => .ok code

inductive Stage where
  /-- The form is awaited. -/
  | reading
  /-- The output of the code is awaited. -/
  | running (code : Text)
  /-- The peers are awaited. -/
  | listing
  | closed (response : Response) (outcome : Except Failure Unit) (rejected : Option Failure)

namespace Stage

def progress : Stage → Progress
  | .reading => .awaitForm fun form =>
    match form.get? codeField with
    | none => .fail (.missingField codeField)
    | some code => runCode code
  | .running code =>
    .awaitReply (.run code) fun output => .complete (Page.layOutStore output) showPage
  | .listing =>
    .awaitReply .listPeers fun peers => .view fun session => .send 200 (page peers session) .finish
  | .closed _ outcome _ => .done outcome

def response : Stage → Response
  | .closed response _ _ => response
  | _ => {}

def rejected : Stage → Option Failure
  | .closed _ _ rejected => rejected
  | _ => none

end Stage

structure Standing where
  heading : Text
  body : Body := {}
  stage : Stage

namespace Standing

def exchange (standing : Standing) : Exchange where
  heading := standing.heading
  response := standing.stage.response
  body := standing.body
  progress := standing.stage.progress
  rejected := standing.stage.rejected

def failed (heading : Text) (body : Body) (cause : Failure) : Standing where
  heading := heading
  body := body
  stage := .closed (.ofFailure cause) (.error cause) none

def refused (request : Request) (message : Text) (status : Int) : Standing where
  heading := request.heading
  stage := .closed (.ofError message status) (.ok ()) none

def unreadable (entry : Http.Entry) : Standing where
  heading := ""
  stage :=
    let conclusion := Exchange.reject entry {} [] .invalidUrl
    .closed conclusion.response (.ok ()) conclusion.rejected

def shown (heading : Text) (body : Body) (html : Text) : Standing where
  heading := heading
  body := body
  stage := .closed (.whole 200 html) (.ok ()) none

end Standing

variable {ι : Type}

/-- What an event can do about its request: from the standing before it to what happens, the
session and the standing after it. -/
inductive Turn (entry : Http.Entry) (id : ι) (session : Session) :
    Option Standing → Event ι → List (Occurrence ι) → Session → Option Standing → Prop
  | unknown {event} (notArrival : ∀ request, event ≠ .arrive id request) :
      Turn entry id session none event [] session none
  | repeated {standing request} :
      Turn entry id session (some standing) (.arrive id request) [] session (some standing)
  | late {heading body response outcome rejected event} :
      Turn entry id session (some ⟨heading, body, .closed response outcome rejected⟩) event []
        session (some ⟨heading, body, .closed response outcome rejected⟩)
  | unread {standing event} (pastBody : standing.stage ≠ .reading)
      (ofBody : (∃ content, event = .chunk id content) ∨ event = .bodyEnd id ∨
        ∃ message, event = .bodyAbort id message) :
      Turn entry id session (some standing) event [] session (some standing)
  | unasked {heading body reply} :
      Turn entry id session (some ⟨heading, body, .reading⟩) (.reply id reply) []
        session (some ⟨heading, body, .reading⟩)
  | unreadable {request} (asks : purpose request = .unreadable) :
      Turn entry id session none (.arrive id request)
        ((Exchange.reject entry {} [] .invalidUrl).logs.map (.logged id) ++
          [.finished id (Standing.unreadable entry).exchange])
        session (some (.unreadable entry))
  | refused {request message status} (asks : (purpose request).refusal? = some (message, status)) :
      Turn entry id session none (.arrive id request)
        [.finished id (Standing.refused request message status).exchange]
        session (some (.refused request message status))
  | viewed {request} (asks : purpose request = .view) :
      Turn entry id session none (.arrive id request) [.called id .listPeers]
        session (some ⟨request.heading, {}, .listing⟩)
  | admitted {request} (asks : purpose request = .submit) :
      Turn entry id session none (.arrive id request) []
        session (some ⟨request.heading, {}, .reading⟩)
  | extended {heading body content} :
      Turn entry id session (some ⟨heading, body, .reading⟩) (.chunk id content) []
        session (some ⟨heading, body.receive content, .reading⟩)
  | submitted {heading body code} (accepted : codeIn body.form = .ok code) :
      Turn entry id session (some ⟨heading, body, .reading⟩) (.bodyEnd id)
        [.called id (.run code)] (session.submit code) (some ⟨heading, body, .running code⟩)
  | unaccepted {heading body cause} (rejected : codeIn body.form = .error cause) :
      Turn entry id session (some ⟨heading, body, .reading⟩) (.bodyEnd id)
        [.logged id (failureEntry heading cause),
          .finished id (Standing.failed heading body cause).exchange]
        session (some (.failed heading body cause))
  | aborted {heading body message} :
      Turn entry id session (some ⟨heading, body, .reading⟩) (.bodyAbort id message)
        [.logged id (failureEntry heading (.foreign message)),
          .finished id (Standing.failed heading body (.foreign message)).exchange]
        session (some (.failed heading body (.foreign message)))
  | ran {heading body code reply output} (succeeds : reply (.run code) = .ok output) :
      Turn entry id session (some ⟨heading, body, .running code⟩) (.reply id reply)
        [.replied id (.run code) (.ok output), .called id .listPeers]
        (session.complete (Page.layOutStore output)) (some ⟨heading, body, .listing⟩)
  | runFailed {heading body code reply cause} (fails : reply (.run code) = .error cause) :
      Turn entry id session (some ⟨heading, body, .running code⟩) (.reply id reply)
        [.replied id (.run code) (.error cause), .logged id (failureEntry heading cause),
          .finished id (Standing.failed heading body cause).exchange]
        session (some (.failed heading body cause))
  | listed {heading body reply peers} (succeeds : reply .listPeers = .ok peers) :
      Turn entry id session (some ⟨heading, body, .listing⟩) (.reply id reply)
        [.replied id .listPeers (.ok peers),
          .finished id (Standing.shown heading body (page peers session)).exchange]
        session (some (.shown heading body (page peers session)))
  | listFailed {heading body reply cause} (fails : reply .listPeers = .error cause) :
      Turn entry id session (some ⟨heading, body, .listing⟩) (.reply id reply)
        [.replied id .listPeers (.error cause), .logged id (failureEntry heading cause),
          .finished id (Standing.failed heading body cause).exchange]
        session (some (.failed heading body cause))

theorem select_otherPath (method path : Text) (different : path ≠ "/") :
    Route.select routes method path = .notFound := by
  simp [Route.select, routes, Ne.symm different]

theorem select_view : Route.select routes "GET" "/" = .handle showPage := by
  rfl

theorem select_submit : Route.select routes "POST" "/" = .handle submitForm := by
  rfl

theorem select_otherMethod (method : Text) (notGet : method ≠ "GET") (notPost : method ≠ "POST") :
    Route.select routes method "/" = .methodNotAllowed := by
  have getOther : ("GET" : Text) ≠ method := Ne.symm notGet
  have postOther : ("POST" : Text) ≠ method := Ne.symm notPost
  have getStar : ("GET" : Text) ≠ "*" := by decide
  have postStar : ("POST" : Text) ≠ "*" := by decide
  simp [Route.select, routes, Route.takesMethod, getOther, postOther, getStar, postStar]

/-- How a request is set about, whatever is at hand. -/
theorem start_handled {σ : Type} (entry : Http.Entry) (around : Surroundings σ) (request : Request)
    (session : Session) (world : σ) :
    Exchange.start entry around routes request session world =
      match purpose request with
      | .unreadable => Exchange.closed "" (Exchange.reject entry {} [] .invalidUrl) session world
      | .otherPath =>
        Exchange.closed request.heading (Exchange.refuse entry "Not Found" 404) session world
      | .otherMethod =>
        Exchange.closed request.heading (Exchange.refuse entry "Method Not Allowed" 405) session
          world
      | .view =>
        Exchange.run entry around { heading := request.heading, progress := .done (.ok ()) }
          showPage session world
      | .submit =>
        Exchange.run entry around { heading := request.heading, progress := .done (.ok ()) }
          submitForm session world := by
  unfold Exchange.start purpose Request.heading
  cases request.url? with
  | none => rfl
  | some url =>
      simp only
      by_cases path : (url.pathname : Text) = "/"
      · rw [path]
        by_cases get : request.methodName = "GET"
        · simp only [get, select_view, ne_eq, not_true_eq_false, if_false, if_true]
        · by_cases post : request.methodName = "POST"
          · have notGet : ("POST" : Text) ≠ "GET" := by decide
            simp only [post, select_submit, ne_eq, not_true_eq_false, if_false, notGet, if_true]
          · simp only [select_otherMethod _ get post, ne_eq, not_true_eq_false, if_false, get, post]
      · simp only [select_otherPath _ _ path, ne_eq, path, not_false_eq_true, if_true]

theorem start_eq (entry : Http.Entry) (request : Request) (session : Session) :
    Exchange.start entry .none routes request session () =
      match purpose request with
      | .unreadable =>
        { exchange := (Standing.unreadable entry).exchange
          session, world := (), logs := (Exchange.reject entry {} [] .invalidUrl).logs }
      | .otherPath =>
        { exchange := (Standing.refused request "Not Found" 404).exchange, session, world := () }
      | .otherMethod =>
        { exchange := (Standing.refused request "Method Not Allowed" 405).exchange
          session, world := () }
      | .view =>
        { exchange := (⟨request.heading, {}, .listing⟩ : Standing).exchange
          session, world := (), calls := [.listPeers] }
      | .submit =>
        { exchange := (⟨request.heading, {}, .reading⟩ : Standing).exchange
          session, world := () } := by
  rw [start_handled, Exchange.refuse_eq, Exchange.refuse_eq]
  unfold Standing.refused
  cases purpose request with
  | unreadable => rfl
  | otherPath =>
      simp only [Exchange.closed, Standing.exchange, Stage.response, Stage.progress, Stage.rejected]
  | otherMethod =>
      simp only [Exchange.closed, Standing.exchange, Stage.response, Stage.progress, Stage.rejected]
  | view => rfl
  | submit => rfl

theorem resumeForm_reading (entry : Http.Entry) (heading : Text) (body : Body)
    (form : Except Failure Form) (session : Session) :
    Exchange.resumeForm entry .none (⟨heading, body, .reading⟩ : Standing).exchange form session
        () =
      match codeIn form with
      | .ok code =>
        { exchange := (⟨heading, body, .running code⟩ : Standing).exchange
          session := session.submit code, world := (), calls := [.run code] }
      | .error cause =>
        { exchange := (Standing.failed heading body cause).exchange
          session, world := (), logs := [failureEntry heading cause] } := by
  cases form with
  | error cause => rfl
  | ok fields =>
      cases found : fields.get? codeField with
      | none =>
          simp only [Exchange.resumeForm, Standing.exchange, Stage.progress, codeIn, found]
          rfl
      | some code =>
          simp only [Exchange.resumeForm, Standing.exchange, Stage.progress, codeIn, found]
          rfl

theorem resumeReply_running (entry : Http.Entry) (heading : Text) (body : Body) (code : Text)
    (reply : (call : NodeCall) → Except Failure call.Reply) (session : Session) :
    Exchange.resumeReply entry .none (⟨heading, body, .running code⟩ : Standing).exchange reply
        session () =
      match reply (.run code) with
      | .ok output =>
        { exchange := (⟨heading, body, .listing⟩ : Standing).exchange
          session := session.complete (Page.layOutStore output), world := ()
          calls := [.listPeers] }
      | .error cause =>
        { exchange := (Standing.failed heading body cause).exchange
          session, world := (), logs := [failureEntry heading cause] } := by
  simp only [Exchange.resumeReply, Standing.exchange, Stage.progress]
  cases reply (.run code) <;> rfl

theorem resumeReply_listing (entry : Http.Entry) (heading : Text) (body : Body)
    (reply : (call : NodeCall) → Except Failure call.Reply) (session : Session) :
    Exchange.resumeReply entry .none (⟨heading, body, .listing⟩ : Standing).exchange reply
        session () =
      match reply .listPeers with
      | .ok peers =>
        { exchange := (Standing.shown heading body (page peers session)).exchange
          session, world := () }
      | .error cause =>
        { exchange := (Standing.failed heading body cause).exchange
          session, world := (), logs := [failureEntry heading cause] } := by
  simp only [Exchange.resumeReply, Standing.exchange, Stage.progress]
  cases reply .listPeers <;> rfl

variable [DecidableEq ι]

theorem move_closed (state : State ι) (id : ι) (act : Exchange → Step Unit) (exchange : Exchange)
    (found : find? state id = some exchange) (done : exchange.progress.isDone = true) :
    move state id act = (state, []) := by
  simp [move, found, done]

theorem move_open (state : State ι) (id : ι) (act : Exchange → Step Unit) (exchange : Exchange)
    (found : find? state id = some exchange) (notDone : exchange.progress.isDone = false) :
    move state id act = after state id (act exchange) := by
  simp [move, found, notDone]

def StepTurns (entry : Http.Entry) (state : State ι) (event : Event ι)
    (standing? : Option Standing) : Prop :=
  ∃ next?, find? ((server entry).step state event).1 event.id = next?.map Standing.exchange ∧
    Turn entry event.id state.session standing? event (occurrences (server entry) state event)
      ((server entry).step state event).1.session next?

theorem stays (entry : Http.Entry) (state : State ι) (event : Event ι) (standing? : Option Standing)
    (found : find? state event.id = standing?.map Standing.exchange)
    (noReply : arriving state event = [])
    (still : (server entry).step state event = (state, []))
    (turn : Turn entry event.id state.session standing? event [] state.session standing?) :
    StepTurns entry state event standing? := by
  refine ⟨standing?, by rw [still, found], ?_⟩
  simpa [occurrences, noReply, still] using turn

theorem moves (entry : Http.Entry) (state : State ι) (event : Event ι) (standing? : Option Standing)
    (step : Step Unit) (next : Standing) (new : List (Occurrence ι))
    (moved : (server entry).step state event = after state event.id step)
    (stands : step.exchange = next.exchange)
    (happens : arriving state event ++
      (Server.notices event.id step).map Occurrence.ofNotice = new)
    (turn : Turn entry event.id state.session standing? event new step.session (some next)) :
    StepTurns entry state event standing? := by
  refine ⟨some next, ?_, ?_⟩
  · rw [moved, Server.find?_after, if_pos rfl, stands]
    rfl
  · rw [occurrences, moved]
    change Turn entry event.id state.session standing? event
      (arriving state event ++ (Server.notices event.id step).map Occurrence.ofNotice)
      step.session (some next)
    rw [happens]
    exact turn

theorem arrive_turn (entry : Http.Entry) (state : State ι) (id : ι) (request : Request)
    (standing? : Option Standing) (found : find? state id = standing?.map Standing.exchange) :
    StepTurns entry state (.arrive id request) standing? := by
  cases standing? with
  | some standing =>
      refine stays entry state (.arrive id request) (some standing) found rfl ?_ .repeated
      simp [Server.step, found]
  | none =>
      have started : (server entry).step state (.arrive id request) =
          after state id (Exchange.start entry .none routes request state.session ()) := by
        simp [Server.step, found, server]
      have start := start_eq entry request state.session
      cases asks : purpose request with
      | unreadable =>
          rw [asks] at start
          refine moves entry state (.arrive id request) none _ (.unreadable entry) _ started
            (by rw [start]) rfl ?_
          rw [start]
          cases entry with
          | dispatcher => exact .unreadable asks
          | listener => exact .unreadable asks
      | otherPath =>
          have refusal : (purpose request).refusal? = some (("Not Found" : Text), 404) := by
            rw [asks]
            rfl
          rw [asks] at start
          refine moves entry state (.arrive id request) none _ (.refused request "Not Found" 404)
            [.finished id (Standing.refused request "Not Found" 404).exchange] started
            (by rw [start]) (by rw [start]; rfl) ?_
          rw [start]
          exact .refused refusal
      | otherMethod =>
          have refusal :
              (purpose request).refusal? = some (("Method Not Allowed" : Text), 405) := by
            rw [asks]
            rfl
          rw [asks] at start
          refine moves entry state (.arrive id request) none _
            (.refused request "Method Not Allowed" 405)
            [.finished id (Standing.refused request "Method Not Allowed" 405).exchange] started
            (by rw [start]) (by rw [start]; rfl) ?_
          rw [start]
          exact .refused refusal
      | view =>
          rw [asks] at start
          refine moves entry state (.arrive id request) none _ ⟨request.heading, {}, .listing⟩ _
            started (by rw [start]) rfl ?_
          rw [start]
          exact .viewed asks
      | submit =>
          rw [asks] at start
          refine moves entry state (.arrive id request) none _ ⟨request.heading, {}, .reading⟩ _
            started (by rw [start]) rfl ?_
          rw [start]
          exact .admitted asks

theorem keeps (entry : Http.Entry) (state : State ι) (event : Event ι) (standing : Standing)
    (act : Exchange → Step Unit) (found : find? state event.id = some standing.exchange)
    (noReply : arriving state event = [])
    (moved : (server entry).step state event = move state event.id act)
    (still : act standing.exchange = Exchange.still standing.exchange state.session ())
    (turn : Turn entry event.id state.session (some standing) event [] state.session
      (some standing)) :
    StepTurns entry state event (some standing) := by
  cases done : standing.exchange.progress.isDone with
  | true =>
      exact stays entry state event (some standing) found noReply
        (moved.trans (move_closed state event.id act _ found done)) turn
  | false =>
      have opened := moved.trans (move_open state event.id act _ found done)
      rw [still] at opened
      refine moves entry state event (some standing) _ standing [] opened rfl ?_ turn
      simp [noReply, Server.notices, Exchange.still, done]

theorem receive_unread (standing : Standing) (pastBody : standing.stage ≠ .reading)
    (content : List UInt8) : standing.exchange.receive content = standing.exchange := by
  obtain ⟨heading, body, stage⟩ := standing
  cases stage with
  | reading => exact absurd rfl pastBody
  | _ => rfl

theorem resumeForm_unread (entry : Http.Entry) (standing : Standing)
    (pastBody : standing.stage ≠ .reading) (form : Except Failure Form) (session : Session) :
    Exchange.resumeForm entry .none standing.exchange form session () =
      Exchange.still standing.exchange session () := by
  obtain ⟨heading, body, stage⟩ := standing
  cases stage with
  | reading => exact absurd rfl pastBody
  | _ => rfl

theorem chunk_turn (entry : Http.Entry) (state : State ι) (id : ι) (content : List UInt8)
    (standing : Standing) (found : find? state id = some standing.exchange) :
    StepTurns entry state (.chunk id content) (some standing) := by
  by_cases reading : standing.stage = .reading
  · obtain ⟨heading, body, stage⟩ := standing
    subst reading
    exact moves entry state (.chunk id content) _ _ ⟨heading, body.receive content, .reading⟩ []
      (move_open state id _ _ found rfl) rfl rfl .extended
  · refine keeps entry state (.chunk id content) standing _ found rfl rfl ?_
      (.unread reading (.inl ⟨content, rfl⟩))
    rw [receive_unread standing reading]

theorem bodyEnd_turn (entry : Http.Entry) (state : State ι) (id : ι) (standing : Standing)
    (found : find? state id = some standing.exchange) :
    StepTurns entry state (.bodyEnd id) (some standing) := by
  by_cases reading : standing.stage = .reading
  · obtain ⟨heading, body, stage⟩ := standing
    subst reading
    have moved : (server entry).step state (.bodyEnd id) = after state id _ :=
      move_open state id _ _ found rfl
    have resumed := resumeForm_reading entry heading body body.form state.session
    cases form : codeIn body.form with
    | ok code =>
        rw [form] at resumed
        exact moves entry state (.bodyEnd id) _ _ ⟨heading, body, .running code⟩
          [.called id (.run code)] (moved.trans (congrArg (after state id) resumed)) rfl rfl
          (.submitted form)
    | error cause =>
        rw [form] at resumed
        exact moves entry state (.bodyEnd id) _ _ (.failed heading body cause)
          [.logged id (failureEntry heading cause),
            .finished id (Standing.failed heading body cause).exchange]
          (moved.trans (congrArg (after state id) resumed)) rfl rfl (.unaccepted form)
  · exact keeps entry state (.bodyEnd id) standing _ found rfl rfl
      (resumeForm_unread entry standing reading _ state.session) (.unread reading (.inr (.inl rfl)))

theorem bodyAbort_turn (entry : Http.Entry) (state : State ι) (id : ι) (message : Text)
    (standing : Standing) (found : find? state id = some standing.exchange) :
    StepTurns entry state (.bodyAbort id message) (some standing) := by
  by_cases reading : standing.stage = .reading
  · obtain ⟨heading, body, stage⟩ := standing
    subst reading
    have moved : (server entry).step state (.bodyAbort id message) = after state id _ :=
      move_open state id _ _ found rfl
    have resumed := resumeForm_reading entry heading body (.error (.foreign message)) state.session
    exact moves entry state (.bodyAbort id message) _ _
      (.failed heading body (.foreign message))
      [.logged id (failureEntry heading (.foreign message)),
        .finished id (Standing.failed heading body (.foreign message)).exchange]
      (moved.trans (congrArg (after state id) resumed)) rfl rfl .aborted
  · exact keeps entry state (.bodyAbort id message) standing _ found rfl rfl
      (resumeForm_unread entry standing reading _ state.session)
      (.unread reading (.inr (.inr ⟨message, rfl⟩)))

theorem awaited?_eq (state : State ι) (id : ι) (standing : Standing)
    (found : find? state id = some standing.exchange) :
    awaited? state id = standing.stage.progress.awaited? := by
  rw [awaited?, found]
  rfl

theorem reply_turn (entry : Http.Entry) (state : State ι) (id : ι)
    (reply : (call : NodeCall) → Except Failure call.Reply) (standing : Standing)
    (found : find? state id = some standing.exchange) :
    StepTurns entry state (.reply id reply) (some standing) := by
  have awaited := awaited?_eq state id standing found
  obtain ⟨heading, body, stage⟩ := standing
  cases stage with
  | reading =>
      refine keeps entry state (.reply id reply) _ _ found ?_ rfl rfl .unasked
      rw [arriving, awaited]
      rfl
  | closed response outcome rejected =>
      refine keeps entry state (.reply id reply) _ _ found ?_ rfl rfl .late
      rw [arriving, awaited]
      rfl
  | running code =>
      have moved : (server entry).step state (.reply id reply) = after state id _ :=
        move_open state id _ _ found rfl
      have resumed := resumeReply_running entry heading body code reply state.session
      have arrives : arriving state (.reply id reply) =
          [.replied id (.run code) (reply (.run code))] := by
        rw [arriving, awaited]
        rfl
      cases outcome : reply (.run code) with
      | ok output =>
          rw [outcome] at resumed arrives
          refine moves entry state (.reply id reply) _ _ ⟨heading, body, .listing⟩
            [.replied id (.run code) (.ok output), .called id .listPeers]
            (moved.trans (congrArg (after state id) resumed)) rfl ?_ (.ran outcome)
          rw [arrives]
          rfl
      | error cause =>
          rw [outcome] at resumed arrives
          refine moves entry state (.reply id reply) _ _ (.failed heading body cause)
            [.replied id (.run code) (.error cause), .logged id (failureEntry heading cause),
              .finished id (Standing.failed heading body cause).exchange]
            (moved.trans (congrArg (after state id) resumed)) rfl ?_ (.runFailed outcome)
          rw [arrives]
          rfl
  | listing =>
      have moved : (server entry).step state (.reply id reply) = after state id _ :=
        move_open state id _ _ found rfl
      have resumed := resumeReply_listing entry heading body reply state.session
      have arrives : arriving state (.reply id reply) =
          [.replied id .listPeers (reply .listPeers)] := by
        rw [arriving, awaited]
        rfl
      cases outcome : reply .listPeers with
      | ok peers =>
          rw [outcome] at resumed arrives
          refine moves entry state (.reply id reply) _ _
            (.shown heading body (page peers state.session))
            [.replied id .listPeers (.ok peers),
              .finished id (Standing.shown heading body (page peers state.session)).exchange]
            (moved.trans (congrArg (after state id) resumed)) rfl ?_ (.listed outcome)
          rw [arrives]
          rfl
      | error cause =>
          rw [outcome] at resumed arrives
          refine moves entry state (.reply id reply) _ _ (.failed heading body cause)
            [.replied id .listPeers (.error cause), .logged id (failureEntry heading cause),
              .finished id (Standing.failed heading body cause).exchange]
            (moved.trans (congrArg (after state id) resumed)) rfl ?_ (.listFailed outcome)
          rw [arrives]
          rfl

theorem absent_turn (entry : Http.Entry) (state : State ι) (event : Event ι)
    (absent : find? state event.id = none)
    (notArrival : ∀ id request, event ≠ .arrive id request) :
    StepTurns entry state event none := by
  have unmoved (act : Exchange → Step Unit) : move state event.id act = (state, []) := by
    simp [move, absent]
  have turn : Turn entry event.id state.session none event [] state.session none :=
    .unknown (notArrival event.id)
  cases event with
  | arrive id request => exact absurd rfl (notArrival id request)
  | chunk id content =>
      exact stays entry state (.chunk id content) none absent rfl (unmoved _) turn
  | bodyEnd id => exact stays entry state (.bodyEnd id) none absent rfl (unmoved _) turn
  | bodyAbort id message =>
      exact stays entry state (.bodyAbort id message) none absent rfl (unmoved _) turn
  | reply id reply =>
      refine stays entry state (.reply id reply) none absent ?_ (unmoved _) turn
      have absent : find? state id = none := absent
      simp [arriving, awaited?, absent]

/-- Every step of the server is a turn of the exchange that its event is about. -/
theorem step_turn (entry : Http.Entry) (state : State ι) (event : Event ι)
    (standing? : Option Standing)
    (found : find? state event.id = standing?.map Standing.exchange) :
    StepTurns entry state event standing? := by
  cases event with
  | arrive id request => exact arrive_turn entry state id request standing? found
  | chunk id content =>
      cases standing? with
      | none => exact absent_turn entry state (.chunk id content) found (by simp)
      | some standing => exact chunk_turn entry state id content standing found
  | bodyEnd id =>
      cases standing? with
      | none => exact absent_turn entry state (.bodyEnd id) found (by simp)
      | some standing => exact bodyEnd_turn entry state id standing found
  | bodyAbort id message =>
      cases standing? with
      | none => exact absent_turn entry state (.bodyAbort id message) found (by simp)
      | some standing => exact bodyAbort_turn entry state id message standing found
  | reply id reply =>
      cases standing? with
      | none => exact absent_turn entry state (.reply id reply) found (by simp)
      | some standing => exact reply_turn entry state id reply standing found

end Ui

end NodeConsole
