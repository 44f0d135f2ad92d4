import Mathlib.Data.List.Induction
import NodeConsole.Http.Server

/-!
Runs of a server as they look from outside. The past of a run lists in order what happens in it:
calls that go to the node, replies that reach a request waiting for them, log entries, and finished
exchanges. A run grows at its end by one event at a time, which brings its occurrences.
-/

namespace NodeConsole.Http

def Progress.awaited? : Progress → Option NodeCall
  | .awaitReply call _ => some call
  | _ => none

namespace Server

def Event.id {ι : Type} : Event ι → ι
  | .arrive id _ => id
  | .chunk id _ => id
  | .bodyEnd id => id
  | .bodyAbort id _ => id
  | .reply id _ => id

inductive Occurrence (ι : Type) where
  | called (id : ι) (call : NodeCall)
  /-- A reply comes to the request that waits for it. -/
  | replied (id : ι) (call : NodeCall) (result : Except Failure call.Reply)
  | logged (id : ι) (entry : LogEntry)
  | finished (id : ι) (exchange : Exchange)

namespace Occurrence

variable {ι : Type}

def ofNotice : Notice ι → Occurrence ι
  | .called id call => .called id call
  | .logged id entry => .logged id entry
  | .finished id exchange => .finished id exchange

def notice? : Occurrence ι → Option (Notice ι)
  | .called id call => some (.called id call)
  | .replied _ _ _ => none
  | .logged id entry => some (.logged id entry)
  | .finished id exchange => some (.finished id exchange)

def id : Occurrence ι → ι
  | .called id _ => id
  | .replied id _ _ => id
  | .logged id _ => id
  | .finished id _ => id

def call? : Occurrence ι → Option NodeCall
  | .called _ call => some call
  | _ => none

def outcome? : Occurrence ι → Option (NodeCall × Bool)
  | .replied _ call (.ok _) => some (call, true)
  | .replied _ call (.error _) => some (call, false)
  | _ => none

def submission? : Occurrence ι → Option (ι × Text)
  | .called id (.run code) => some (id, code)
  | _ => none

def result? : Occurrence ι → Option (ι × Text)
  | .replied id (.run _) (.ok output) => some (id, output)
  | _ => none

def logEntry? : Occurrence ι → Option LogEntry
  | .logged _ entry => some entry
  | _ => none

def response? : Occurrence ι → Option (ι × Response)
  | .finished id exchange => some (id, exchange.response)
  | _ => none

end Occurrence

variable {ι : Type}

/-! What can be read off a past, in the order in which it happened. -/

def calls (past : List (Occurrence ι)) : List NodeCall :=
  past.filterMap Occurrence.call?

def outcomes (past : List (Occurrence ι)) : List (NodeCall × Bool) :=
  past.filterMap Occurrence.outcome?

def submissions (past : List (Occurrence ι)) : List (ι × Text) :=
  past.filterMap Occurrence.submission?

def results (past : List (Occurrence ι)) : List (ι × Text) :=
  past.filterMap Occurrence.result?

def logEntries (past : List (Occurrence ι)) : List LogEntry :=
  past.filterMap Occurrence.logEntry?

def responses (past : List (Occurrence ι)) : List (ι × Response) :=
  past.filterMap Occurrence.response?

@[simp] theorem calls_append (first second : List (Occurrence ι)) :
    calls (first ++ second) = calls first ++ calls second :=
  List.filterMap_append

@[simp] theorem outcomes_append (first second : List (Occurrence ι)) :
    outcomes (first ++ second) = outcomes first ++ outcomes second :=
  List.filterMap_append

@[simp] theorem submissions_append (first second : List (Occurrence ι)) :
    submissions (first ++ second) = submissions first ++ submissions second :=
  List.filterMap_append

@[simp] theorem results_append (first second : List (Occurrence ι)) :
    results (first ++ second) = results first ++ results second :=
  List.filterMap_append

@[simp] theorem logEntries_append (first second : List (Occurrence ι)) :
    logEntries (first ++ second) = logEntries first ++ logEntries second :=
  List.filterMap_append

@[simp] theorem responses_append (first second : List (Occurrence ι)) :
    responses (first ++ second) = responses first ++ responses second :=
  List.filterMap_append

variable [DecidableEq ι]

def own (id : ι) (past : List (Occurrence ι)) : List (Occurrence ι) :=
  past.filter fun occurrence => occurrence.id = id

theorem own_append (id : ι) (first second : List (Occurrence ι)) :
    own id (first ++ second) = own id first ++ own id second :=
  List.filter_append ..

def awaited? (state : State ι) (id : ι) : Option NodeCall :=
  (find? state id).bind fun exchange => exchange.progress.awaited?

def arriving (state : State ι) : Event ι → List (Occurrence ι)
  | .reply id reply => (awaited? state id).toList.map fun call => .replied id call (reply call)
  | _ => []

def occurrences (server : Server) (state : State ι) (event : Event ι) : List (Occurrence ι) :=
  arriving state event ++ (server.step state event).2.map Occurrence.ofNotice

def pastFrom (server : Server) (state : State ι) : List (Event ι) → List (Occurrence ι)
  | [] => []
  | event :: rest =>
    occurrences server state event ++ pastFrom server (server.step state event).1 rest

def past (server : Server) (events : List (Event ι)) : List (Occurrence ι) :=
  pastFrom server {} events

def reached (server : Server) (events : List (Event ι)) : State ι :=
  (runEvents server {} events).1

theorem runEvents_concat (server : Server) (state : State ι) (events : List (Event ι))
    (event : Event ι) :
    runEvents server state (events ++ [event]) =
      ((server.step (runEvents server state events).1 event).1,
        (runEvents server state events).2 ++
          (server.step (runEvents server state events).1 event).2) := by
  simp [runEvents, List.foldl_append]

theorem reached_concat (server : Server) (events : List (Event ι)) (event : Event ι) :
    reached server (events ++ [event]) = (server.step (reached server events) event).1 := by
  simp [reached, runEvents_concat]

theorem pastFrom_append (server : Server) (state : State ι) (first second : List (Event ι)) :
    pastFrom server state (first ++ second) = pastFrom server state first ++
      pastFrom server (first.foldl (fun current event => (server.step current event).1) state)
        second := by
  induction first generalizing state with
  | nil => rfl
  | cons event rest ih => simp [pastFrom, ih]

theorem reached_eq_foldl (server : Server) (events : List (Event ι)) :
    reached server events =
      events.foldl (fun current item => (server.step current item).1) {} := by
  induction events using List.reverseRecOn with
  | nil => rfl
  | append_singleton events event ih => simp [reached_concat, List.foldl_append, ih]

theorem past_append (server : Server) (events more : List (Event ι)) :
    past server (events ++ more) =
      past server events ++ pastFrom server (reached server events) more := by
  rw [past, pastFrom_append, ← reached_eq_foldl, past]

theorem past_concat (server : Server) (events : List (Event ι)) (event : Event ι) :
    past server (events ++ [event]) =
      past server events ++ occurrences server (reached server events) event := by
  rw [past_append, pastFrom, pastFrom, List.append_nil]

/-- The past of a run is its notices with the replies put in. -/
theorem past_notices (server : Server) (events : List (Event ι)) :
    (past server events).filterMap Occurrence.notice? = (runEvents server {} events).2 := by
  induction events using List.reverseRecOn with
  | nil => rfl
  | append_singleton events event ih =>
      have noReply :
          (arriving (reached server events) event).filterMap Occurrence.notice? = [] := by
        cases event with
        | reply id reply =>
            cases awaited : awaited? (reached server events) id <;>
              simp [arriving, awaited, Occurrence.notice?]
        | _ => rfl
      have noticed : ∀ notices : List (Notice ι),
          (notices.map Occurrence.ofNotice).filterMap Occurrence.notice? = notices := by
        intro notices
        have inverse : Occurrence.notice? ∘ Occurrence.ofNotice = (some : Notice ι → _) := by
          funext notice
          cases notice <;> rfl
        rw [List.filterMap_map, inverse, List.filterMap_some]
      rw [past_concat, runEvents_concat, List.filterMap_append, ih, occurrences,
        List.filterMap_append, noReply, noticed]
      rfl

theorem mem_past (server : Server) (events : List (Event ι)) (occurrence : Occurrence ι)
    (member : occurrence ∈ past server events) :
    ∃ before event after, events = before ++ event :: after ∧
      occurrence ∈ occurrences server (reached server before) event := by
  induction events using List.reverseRecOn with
  | nil => simp [past, pastFrom] at member
  | append_singleton events event ih =>
      rw [past_concat, List.mem_append] at member
      rcases member with earlier | new
      · obtain ⟨before, found, after, split, happens⟩ := ih earlier
        exact ⟨before, found, after ++ [event], by simp [split], happens⟩
      · exact ⟨events, event, [], rfl, new⟩

theorem mem_past_replied (server : Server) (events : List (Event ι)) (id : ι) (call : NodeCall)
    (result : Except Failure call.Reply) (member : .replied id call result ∈ past server events) :
    ∃ reply, .reply id reply ∈ events ∧ reply call = result := by
  obtain ⟨before, event, after, rfl, happens⟩ := mem_past server events _ member
  simp only [occurrences, List.mem_append, List.mem_map] at happens
  rcases happens with brought | ⟨notice, _, same⟩
  · cases event with
    | reply other reply =>
        simp only [arriving, List.mem_map] at brought
        obtain ⟨awaited, _, same⟩ := brought
        cases same
        exact ⟨reply, by simp, rfl⟩
    | _ => simp [arriving] at brought
  · cases notice <;> cases same

/-! Exchanges are kept apart by the names of their requests. -/

theorem find?_put (session : Session) (id other : ι) (exchange : Exchange)
    (exchanges : List (ι × Exchange)) :
    find? { session, exchanges := put id exchange exchanges } other =
      if other = id then some exchange else find? { session, exchanges } other := by
  induction exchanges with
  | nil =>
      by_cases same : other = id
      · simp [find?, put, same]
      · simp [find?, put, same, Ne.symm same]
  | cons entry rest ih =>
      obtain ⟨name, old⟩ := entry
      simp only [find?] at ih
      by_cases first : name = id
      · subst name
        by_cases same : other = id
        · simp [find?, put, same]
        · simp [find?, put, same, Ne.symm same]
      · by_cases found : name = other
        · subst name
          simp [find?, put, first]
        · simp [find?, put, first, found, ih]

theorem find?_after (state : State ι) (id other : ι) (step : Step Unit) :
    find? (after state id step).1 other =
      if other = id then some step.exchange else find? state other :=
  find?_put step.session id other step.exchange state.exchanges

theorem find?_mem (state : State ι) (id : ι) (exchange : Exchange)
    (found : find? state id = some exchange) : (id, exchange) ∈ state.exchanges := by
  simp only [find?, Option.map_eq_some_iff] at found
  obtain ⟨entry, held, same⟩ := found
  have named : entry.1 = id := by simpa using List.find?_some held
  rw [← named, ← same]
  exact List.mem_of_find?_eq_some held

theorem find?_move_other (state : State ι) (id other : ι) (act : Exchange → Step Unit)
    (different : other ≠ id) : find? (move state id act).1 other = find? state other := by
  unfold move
  split
  · rfl
  · split
    · rfl
    · rw [find?_after, if_neg different]

theorem find?_step_other (server : Server) (state : State ι) (event : Event ι) (other : ι)
    (different : other ≠ event.id) :
    find? (server.step state event).1 other = find? state other := by
  cases event with
  | arrive id request =>
      simp only [step]
      split
      · rfl
      · exact (find?_after state id other _).trans (if_neg different)
  | chunk id content => exact find?_move_other state id other _ different
  | bodyEnd id => exact find?_move_other state id other _ different
  | bodyAbort id message => exact find?_move_other state id other _ different
  | reply id reply => exact find?_move_other state id other _ different

omit [DecidableEq ι] in
theorem notices_about (id : ι) (step : Step Unit) (notice : Notice ι)
    (member : notice ∈ notices id step) : (Occurrence.ofNotice notice).id = id := by
  simp only [notices, List.mem_append, List.mem_map] at member
  rcases member with (⟨call, _, rfl⟩ | ⟨entry, _, rfl⟩) | finished
  · rfl
  · rfl
  · split at finished
    · rw [List.mem_singleton.mp finished]
      rfl
    · simp at finished

theorem move_about (state : State ι) (id : ι) (act : Exchange → Step Unit) (notice : Notice ι)
    (member : notice ∈ (move state id act).2) : (Occurrence.ofNotice notice).id = id := by
  unfold move at member
  split at member
  · simp at member
  · split at member
    · simp at member
    · exact notices_about id _ notice member

theorem occurrences_about (server : Server) (state : State ι) (event : Event ι)
    (occurrence : Occurrence ι) (member : occurrence ∈ occurrences server state event) :
    occurrence.id = event.id := by
  simp only [occurrences, List.mem_append, List.mem_map] at member
  rcases member with brought | ⟨notice, noticed, rfl⟩
  · cases event with
    | reply id reply =>
        simp only [arriving, List.mem_map] at brought
        obtain ⟨call, _, rfl⟩ := brought
        rfl
    | _ => simp [arriving] at brought
  · cases event with
    | arrive id request =>
        simp only [step] at noticed
        split at noticed
        · simp at noticed
        · exact notices_about id _ notice noticed
    | chunk id content => exact move_about state id _ notice noticed
    | bodyEnd id => exact move_about state id _ notice noticed
    | bodyAbort id message => exact move_about state id _ notice noticed
    | reply id reply => exact move_about state id _ notice noticed

theorem filterMap_own {α : Type} (read : Occurrence ι → Option (ι × α))
    (named : ∀ occurrence item, read occurrence = some item → item.1 = occurrence.id) (id : ι)
    (past : List (Occurrence ι)) :
    (own id past).filterMap read = (past.filterMap read).filter fun item => item.1 = id := by
  induction past with
  | nil => rfl
  | cons occurrence rest ih =>
      rw [own] at ih ⊢
      cases found : read occurrence with
      | none =>
          by_cases same : occurrence.id = id
          · simp [same, found, ih]
          · simp [same, found, ih]
      | some item =>
          have about := named occurrence item found
          by_cases same : occurrence.id = id
          · simp [same, found, about, ih]
          · simp [same, found, about, ih]

theorem submissions_own (id : ι) (past : List (Occurrence ι)) :
    submissions (own id past) = (submissions past).filter fun submission => submission.1 = id := by
  refine filterMap_own Occurrence.submission? ?_ id past
  intro occurrence item found
  cases occurrence with
  | called name call =>
      cases call with
      | run code =>
          rw [← Option.some.inj found]
          rfl
      | _ => cases found
  | _ => cases found

theorem results_own (id : ι) (past : List (Occurrence ι)) :
    results (own id past) = (results past).filter fun result => result.1 = id := by
  refine filterMap_own Occurrence.result? ?_ id past
  intro occurrence item found
  cases occurrence with
  | replied name call result =>
      cases call with
      | run code =>
          cases result with
          | ok output =>
              rw [← Option.some.inj found]
              rfl
          | error cause => cases found
      | _ => cases result <;> cases found
  | _ => cases found

theorem own_occurrences (server : Server) (state : State ι) (event : Event ι) (id : ι) :
    own id (occurrences server state event) =
      if event.id = id then occurrences server state event else [] := by
  have about := occurrences_about server state event
  by_cases same : event.id = id
  · rw [if_pos same, own, List.filter_eq_self]
    intro occurrence member
    simpa [same] using about occurrence member
  · rw [if_neg same, own, List.filter_eq_nil_iff]
    intro occurrence member
    simpa [about occurrence member] using same

end Server

end NodeConsole.Http
