import NodeConsole.Proofs.Course

/-!
What the session remembers, as a function of the past: the code that was sent last, and the output
that came last of all runs that succeeded, in whatever order calls and replies overlap.
-/

namespace NodeConsole.Ui

open Http
open Http.Server (Event Occurrence occurrences past reached awaited? submissions results)

variable {ι : Type}

def remember (session : Session) : Occurrence ι → Session
  | .called _ (.run code) => session.submit code
  | .replied _ (.run _) (.ok output) => session.complete (Page.layOutStore output)
  | _ => session

theorem Turn.session_eq {entry : Http.Entry} {id : ι} {session later : Session}
    {standing? next? : Option Standing} {event : Event ι} {new : List (Occurrence ι)}
    (turn : Turn entry id session standing? event new later next?) :
    later = new.foldl remember session := by
  cases turn with
  | unreadable => cases entry <;> rfl
  | _ => rfl

theorem remember_code (session : Session) (occurrence : Occurrence ι) :
    (remember session occurrence).code =
      (occurrence.submission?.map (·.2)).getD session.code := by
  cases occurrence with
  | called id call => cases call <;> rfl
  | replied id call result => cases call <;> cases result <;> rfl
  | _ => rfl

theorem remember_store (session : Session) (occurrence : Occurrence ι) :
    (remember session occurrence).store =
      (occurrence.result?.map fun result => Page.layOutStore result.2).getD session.store := by
  cases occurrence with
  | called id call => cases call <;> rfl
  | replied id call result => cases call <;> cases result <;> rfl
  | _ => rfl

theorem remember_phase (session : Session) (occurrence : Occurrence ι) :
    (remember session occurrence).phase =
      if occurrence.result?.isSome then .hasResult else session.phase := by
  cases occurrence with
  | called id call => cases call <;> rfl
  | replied id call result => cases call <;> cases result <;> rfl
  | _ => rfl

theorem remembered_code (session : Session) (past : List (Occurrence ι)) :
    (past.foldl remember session).code =
      ((submissions past).getLast?.map (·.2)).getD session.code := by
  induction past using List.reverseRecOn with
  | nil => rfl
  | append_singleton past occurrence ih =>
      rw [List.foldl_append, List.foldl_cons, List.foldl_nil, remember_code, ih]
      cases found : occurrence.submission? <;> simp [submissions, found]

theorem remembered_store (session : Session) (past : List (Occurrence ι)) :
    (past.foldl remember session).store =
      ((results past).getLast?.map fun result => Page.layOutStore result.2).getD
        session.store := by
  induction past using List.reverseRecOn with
  | nil => rfl
  | append_singleton past occurrence ih =>
      rw [List.foldl_append, List.foldl_cons, List.foldl_nil, remember_store, ih]
      cases found : occurrence.result? <;> simp [results, found]

theorem remembered_phase (session : Session) (past : List (Occurrence ι)) :
    (past.foldl remember session).phase =
      if results past = [] then session.phase else .hasResult := by
  induction past using List.reverseRecOn with
  | nil => rfl
  | append_singleton past occurrence ih =>
      rw [List.foldl_append, List.foldl_cons, List.foldl_nil, remember_phase, ih]
      cases found : occurrence.result? <;> simp [results, found]

variable [DecidableEq ι]

/-- The session of a run remembers what its past says, and nothing else. -/
theorem reached_session (entry : Http.Entry) (events : List (Event ι)) :
    (reached (server entry) events).session =
      (past (server entry) events).foldl remember Session.fresh := by
  induction events using List.reverseRecOn with
  | nil => rfl
  | append_singleton events event ih =>
      obtain ⟨standing?, next?, _, _, turn⟩ := reached_turn entry events event
      rw [turn.session_eq, ih, Server.past_concat, List.foldl_append]

omit [DecidableEq ι] in
theorem Turn.session_cases {entry : Http.Entry} {id : ι} {session later : Session}
    {standing? next? : Option Standing} {event : Event ι} {new : List (Occurrence ι)}
    (turn : Turn entry id session standing? event new later next?) :
    later = session ∨
      (∃ code, event = .bodyEnd id ∧ new = [.called id (.run code)] ∧
        later = session.submit code) ∨
      ∃ reply code output, event = .reply id reply ∧ reply (.run code) = .ok output ∧
        new = [.replied id (.run code) (.ok output), .called id .listPeers] ∧
        later = session.complete (Page.layOutStore output) := by
  cases turn with
  | submitted accepted => exact .inr (.inl ⟨_, rfl, rfl, rfl⟩)
  | ran succeeds => exact .inr (.inr ⟨_, _, _, rfl, succeeds, rfl, rfl⟩)
  | _ => exact .inl rfl

/-- In every state that a run reaches, whatever overlaps in it, the session holds the code of the
last call to run code and the laid out output of the last run that succeeded. -/
theorem session_follows_past (entry : Http.Entry) (events : List (Event ι)) :
    let session := (reached (server entry) events).session
    let history := past (server entry) events
    session.code = ((submissions history).getLast?.map (·.2)).getD ("" : Text) ∧
    session.store =
      ((results history).getLast?.map fun result => Page.layOutStore result.2).getD ("" : Text) ∧
    (session.phase = .hasResult ↔ results history ≠ []) ∧
    (session.phase = .hasResult → ∀ more,
      (reached (server entry) (events ++ more)).session.phase = .hasResult) ∧
    ∀ event,
      let later := (reached (server entry) (events ++ [event])).session
      let new := occurrences (server entry) (reached (server entry) events) event
      later = session ∨
      (∃ id code, event = .bodyEnd id ∧ new = [.called id (.run code)] ∧
        later = session.submit code) ∨
      ∃ id reply code output, event = .reply id reply ∧ reply (.run code) = .ok output ∧
        new = [.replied id (.run code) (.ok output), .called id .listPeers] ∧
        later = session.complete (Page.layOutStore output) := by
  intro session history
  have remembered : session = history.foldl remember Session.fresh := reached_session entry events
  have phase : session.phase = .hasResult ↔ results history ≠ [] := by
    rw [remembered, remembered_phase]
    by_cases empty : results history = []
    · simp [empty, Session.fresh]
    · simp [empty]
  refine ⟨?_, ?_, phase, ?_, ?_⟩
  · rw [remembered, remembered_code]
    rfl
  · rw [remembered, remembered_store]
    rfl
  · intro hasResult more
    rw [reached_session, remembered_phase, if_neg]
    rw [Server.past_append, Server.results_append]
    exact fun empty => phase.mp hasResult (List.append_eq_nil_iff.mp empty).1
  · intro event later new
    obtain ⟨standing?, next?, _, _, turn⟩ := reached_turn entry events event
    rcases turn.session_cases with same | ⟨code, ended, called, submitted⟩ |
      ⟨reply, code, output, replied, succeeds, happened, completed⟩
    · exact .inl same
    · exact .inr (.inl ⟨event.id, code, ended, called, submitted⟩)
    · exact .inr (.inr ⟨event.id, reply, code, output, replied, succeeds, happened, completed⟩)

end NodeConsole.Ui
