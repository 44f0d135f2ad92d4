import NodeConsole.Proofs.Reception
import NodeConsole.Proofs.Sending

/-!
What a server makes of its handlers, whatever its table of routes. Every request that gets to a
handler fares as the handler's pages and ending have it (`reached_fares`), nothing escapes, and what
its client sees is the first page that was sent (`first_sending_wins`).
-/

namespace NodeConsole.Http

def Reaches (routes : List Route) (request : Request) (handler : Handler) : Prop :=
  ∃ url, request.url? = some url ∧
    Route.select routes request.methodName url.pathname = .handle handler

theorem start_fares {routes : List Route} {request : Request} {handler : Handler}
    (reaches : Reaches routes request handler) (session : Session) :
    let step := Exchange.start .listener .none routes request session ()
    Fares request.heading handler step.exchange step.logs := by
  obtain ⟨url, readable, selected⟩ := reaches
  have few : ([] : List Sending).length ≤ 1 := Nat.zero_le 1
  simp only [Exchange.start, Request.heading, readable, selected]
  exact run_fares (.refl handler) few {} _ session

namespace Server

variable {ι : Type}

theorem logEntries_notices (id : ι) (step : Step Unit) :
    logEntries ((notices id step).map Occurrence.ofNotice) = step.logs := by
  have called (calls : List NodeCall) :
      logEntries (calls.map fun call => Occurrence.ofNotice (.called id call)) = [] := by
    simp [logEntries, Occurrence.ofNotice, Occurrence.logEntry?, Function.comp_def]
  have logged (logs : List LogEntry) :
      logEntries (logs.map fun entry => Occurrence.ofNotice (.logged id entry)) = logs := by
    simp [logEntries, Occurrence.ofNotice, Occurrence.logEntry?, Function.comp_def]
  simp only [notices, List.map_append, List.map_map, logEntries_append, Function.comp_def, called,
    logged]
  cases step.exchange.progress.isDone <;>
    simp [logEntries, Occurrence.ofNotice, Occurrence.logEntry?]

variable [DecidableEq ι]

theorem logEntries_occurrences (server : Server) (state : State ι) (event : Event ι) :
    logEntries (occurrences server state event) =
      logEntries ((server.step state event).2.map Occurrence.ofNotice) := by
  have silent : logEntries (arriving state event) = [] := by
    cases event with
    | reply id reply =>
        simp [arriving, logEntries, Function.comp_def, Occurrence.logEntry?]
    | _ => rfl
  rw [occurrences, logEntries_append, silent, List.nil_append]

theorem move_furthers {heading : Text} {handler : Handler} {state : State ι} {id : ι}
    {exchange : Exchange} {logs : List LogEntry} (found : find? state id = some exchange)
    (fares : Fares heading handler exchange logs) (act : Exchange → Step Unit)
    (furthers : Furthers heading handler exchange logs (act exchange)) :
    ∃ next, find? (move state id act).1 id = some next ∧
      Fares heading handler next
        (logs ++ logEntries ((move state id act).2.map Occurrence.ofNotice)) ∧
      exchange.response.Kept next.response := by
  cases done : exchange.progress.isDone with
  | true =>
      have unmoved : move state id act = (state, []) := Ui.move_closed state id act _ found done
      refine ⟨exchange, ?_, ?_, fun _ => ⟨rfl, rfl⟩⟩
      · rw [unmoved, found]
      · rw [unmoved]
        exact (still_furthers fares state.session).1
  | false =>
      have moved : move state id act = after state id (act exchange) :=
        Ui.move_open state id act _ found done
      refine ⟨(act exchange).exchange, ?_, ?_, furthers.2⟩
      · rw [moved, find?_after, if_pos rfl]
      · rw [moved, after, logEntries_notices]
        exact furthers.1

theorem step_furthers {heading : Text} {handler : Handler} {exchange : Exchange}
    {logs : List LogEntry} (routes : List Route) (state : State ι) (event : Event ι)
    (found : find? state event.id = some exchange) (fares : Fares heading handler exchange logs) :
    let server : Server := { entry := .listener, routes }
    ∃ next, find? (server.step state event).1 event.id = some next ∧
      Fares heading handler next (logs ++ logEntries (occurrences server state event)) ∧
      exchange.response.Kept next.response := by
  intro server
  rw [logEntries_occurrences]
  cases event with
  | arrive id request =>
      have repeated : server.step state (.arrive id request) = (state, []) := by
        simp only [step, show find? state id = some exchange from found]
      rw [repeated]
      exact ⟨exchange, found, (still_furthers fares state.session).1, fun _ => ⟨rfl, rfl⟩⟩
  | chunk id content =>
      exact move_furthers found fares _ (receive_furthers fares content state.session)
  | bodyEnd id => exact move_furthers found fares _ (resumeForm_furthers fares _ state.session)
  | bodyAbort id message =>
      exact move_furthers found fares _ (resumeForm_furthers fares _ state.session)
  | reply id reply =>
      exact move_furthers found fares _ (resumeReply_furthers fares reply state.session)

theorem step_absent (server : Server) (state : State ι) (event : Event ι)
    (absent : find? state event.id = none)
    (notArrival : ∀ id request, event ≠ .arrive id request) :
    server.step state event = (state, []) ∧ occurrences server state event = [] := by
  have unmoved (act : Exchange → Step Unit) : move state event.id act = (state, []) := by
    simp [move, absent]
  have stays : server.step state event = (state, []) := by
    cases event with
    | arrive id request => exact absurd rfl (notArrival id request)
    | _ => exact unmoved _
  have silent : arriving state event = [] := by
    cases event with
    | reply id reply => simp [arriving, awaited?, show find? state id = none from absent]
    | _ => rfl
  exact ⟨stays, by rw [occurrences, silent, stays]; rfl⟩

theorem reached_absent (server : Server) (events : List (Event ι)) (id : ι)
    (missing : received? id events = none) :
    find? (reached server events) id = none ∧ own id (past server events) = [] := by
  induction events using List.reverseRecOn with
  | nil => exact ⟨rfl, rfl⟩
  | append_singleton events event ih =>
      rw [received?_concat] at missing
      rw [reached_concat, past_concat, own_append, own_occurrences]
      by_cases about : event.id = id
      · subst about
        cases came : received? event.id events with
        | some received => simp [came, receive] at missing
        | none =>
            obtain ⟨absent, silent⟩ := ih came
            have notArrival (id : ι) (request : Request) : event ≠ .arrive id request := by
              rintro rfl
              rw [came] at missing
              simp [receive, Event.id] at missing
            obtain ⟨stays, nothing⟩ := step_absent server _ event absent notArrival
            rw [stays, nothing, silent]
            exact ⟨absent, by simp⟩
      · rw [receive_other id _ event about] at missing
        rw [if_neg about, List.append_nil, find?_step_other server _ event id (Ne.symm about)]
        exact ih missing

theorem arrival_fares {routes : List Route} {state : State ι} {id : ι} {request : Request}
    {handler : Handler} (absent : find? state id = none)
    (reaches : Reaches routes request handler) :
    let server : Server := { entry := .listener, routes }
    ∃ exchange, find? (server.step state (.arrive id request)).1 id = some exchange ∧
      Fares request.heading handler exchange
        (logEntries (occurrences server state (.arrive id request))) := by
  intro server
  have started : server.step state (.arrive id request) =
      after state id (Exchange.start .listener .none routes request state.session ()) := by
    simp only [step, absent, server]
  rw [logEntries_occurrences, started]
  refine ⟨_, (find?_after _ id id _).trans (if_pos rfl), ?_⟩
  rw [after, logEntries_notices]
  exact start_fares reaches state.session

theorem reached_fares {routes : List Route} {events : List (Event ι)} {id : ι}
    {received : Received} {handler : Handler} (came : received? id events = some received)
    (reaches : Reaches routes received.request handler) :
    let server : Server := { entry := .listener, routes }
    ∃ exchange, find? (reached server events) id = some exchange ∧
      Fares received.request.heading handler exchange
        (logEntries (own id (past server events))) := by
  intro server
  induction events using List.reverseRecOn generalizing received with
  | nil => cases came
  | append_singleton events event ih =>
      rw [received?_concat] at came
      rw [reached_concat, past_concat, own_append, own_occurrences]
      by_cases about : event.id = id
      · subst about
        rw [if_pos rfl, logEntries_append]
        cases before : received? event.id events with
        | some prior =>
            rw [before, receive_own event.id prior event rfl] at came
            cases came
            obtain ⟨exchange, found, fares⟩ := ih before reaches
            obtain ⟨next, reached, fares, _⟩ := step_furthers routes _ event found fares
            exact ⟨next, reached, fares⟩
        | none =>
            obtain ⟨absent, silent⟩ := reached_absent server events event.id before
            rw [before] at came
            rw [silent]
            cases event with
            | arrive id request =>
                cases (receive_arrival id request).symm.trans came
                exact arrival_fares absent reaches
            | _ => simp [receive] at came
      · rw [receive_other id _ event about] at came
        rw [if_neg about, List.append_nil, find?_step_other server _ event id (Ne.symm about)]
        exact ih came reaches

/-- What has been shown stays, whatever happens next. -/
theorem reached_kept {routes : List Route} {events : List (Event ι)} {id : ι}
    {received : Received} {handler : Handler} (came : received? id events = some received)
    (reaches : Reaches routes received.request handler) {exchange : Exchange}
    (found : find? (reached { entry := .listener, routes } events) id = some exchange)
    (more : List (Event ι)) :
    ∃ later, find? (reached { entry := .listener, routes } (events ++ more)) id = some later ∧
      exchange.response.Kept later.response := by
  induction more using List.reverseRecOn with
  | nil =>
      rw [List.append_nil]
      exact ⟨exchange, found, fun _ => ⟨rfl, rfl⟩⟩
  | append_singleton more event ih =>
      obtain ⟨later, reached, kept⟩ := ih
      rw [← List.append_assoc, reached_concat]
      by_cases about : event.id = id
      · subst about
        obtain ⟨delivery, arrived⟩ := received?_append came more
        obtain ⟨standing, stands, fares⟩ := reached_fares arrived reaches
        cases reached.symm.trans stands
        obtain ⟨next, stepped, _, further⟩ := step_furthers routes _ event reached fares
        exact ⟨next, stepped, kept.trans further⟩
      · rw [find?_step_other _ _ event id (Ne.symm about)]
        exact ⟨later, reached, kept⟩

/-- The first page that a handler sends is what the client sees, and no failure escapes. -/
theorem first_sending_wins {routes : List Route} {events : List (Event ι)} {id : ι}
    {received : Received} {handler : Handler} (came : received? id events = some received)
    (reaches : Reaches routes received.request handler) :
    let server : Server := { entry := .listener, routes }
    let heading := received.request.heading
    let logs := logEntries (own id (past server events))
    ∃ exchange, find? (reached server events) id = some exchange ∧ exchange.rejected = none ∧
      (∀ sends ending, handler = .performing sends ending →
        Settled heading sends ending exchange.response logs) ∧
      (exchange.progress.isDone = true → ∃ sends ending, handler.Performs sends ending ∧
        Settled heading sends ending exchange.response logs) ∧
      (exchange.progress.isDone = false → logs = [] ∧ ∃ sent, sent.length ≤ 1 ∧
        exchange.response = .after sent) ∧
      ∀ more, ∃ later, find? (reached server (events ++ more)) id = some later ∧
        exchange.response.Kept later.response := by
  intro server heading logs
  obtain ⟨exchange, found, fares⟩ := reached_fares came reaches
  refine ⟨exchange, found, fares.contained, ?_, ?_, ?_, reached_kept came reaches found⟩
  · rintro sends ending rfl
    exact fares.settled
  · intro done
    exact fares.of_done done
  · intro waits
    exact fares.of_waiting waits

/-- A page, an error page and a thrown text: the page is seen, and two entries are logged. -/
theorem sent_twice_first_wins :
    let sends : List Sending := [⟨201, "made"⟩, .ofError "late" 503]
    let routes : List Route := [
      { method := "POST", path := "/", handler := .finish },
      { method := "*", path := "/", handler := .performing sends (.error (.bare "thrown")) }]
    let server : Server := { entry := .listener, routes }
    let events : List (Event Nat) := [.arrive 0 {}, .bodyEnd 0]
    received? 0 events = some { request := {}, delivery := .ended [] } ∧
    Reaches routes {} (.performing sends (.error (.bare "thrown"))) ∧
    ∃ exchange, find? (reached server events) 0 = some exchange ∧ exchange.rejected = none ∧
      Settled "GET /" sends (.error (.bare "thrown")) exchange.response
        (logEntries (own 0 (past server events))) ∧
      exchange.response = { Response.whole 201 "made" with ends := 2 } := by
  intro sends routes server events
  have came : received? 0 events = some { request := {}, delivery := .ended [] } := rfl
  have reaches : Reaches routes {} (.performing sends (.error (.bare "thrown"))) := by
    have readable : ({} : Request).url?.map (·.pathname) = some "/" := by decide +kernel
    obtain ⟨url, found, path⟩ := Option.map_eq_some_iff.mp readable
    refine ⟨url, found, ?_⟩
    rw [path]
    rfl
  have heading : ({} : Request).heading = "GET /" := by decide +kernel
  obtain ⟨exchange, found, contained, settled, _⟩ := first_sending_wins came reaches
  have seen := settled sends _ rfl
  rw [heading] at seen
  have shown {response : Response} {logs : List LogEntry}
      (seen : Settled "GET /" [⟨201, "made"⟩, .ofError "late" 503] (.error (.bare "thrown"))
        response logs) : response = { Response.whole 201 "made" with ends := 2 } := by
    cases seen
    rfl
  exact ⟨came, reaches, exchange, found, contained, seen, shown seen⟩

end Server

end NodeConsole.Http
