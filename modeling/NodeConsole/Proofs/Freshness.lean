import NodeConsole.Proofs.Memory

/-!
Which result the session keeps when submissions overlap. Code is remembered when it is sent and a
result when it comes, so that the two belong together only if the node answers the last submission
last; an answer that comes later takes its place, although it is to older code.
-/

namespace NodeConsole.Ui

open Http
open Http.Server (Event Occurrence find? past reached own received? outcomes submissions results)

variable {ι : Type}

theorem Ended.of_submitted {entry : Http.Entry} {id : ι} {received : Received}
    {past : List (Occurrence ι)} {standing : Standing}
    (ended : Ended entry id received past standing) (submitted : submissions past ≠ [])
    (succeeded : ∀ outcome ∈ outcomes past, outcome.2 = true) :
    ∃ code output, submissions past = [(id, code)] ∧ results past = [(id, output)] := by
  cases ended with
  | unreadable asks =>
      cases entry with
      | dispatcher => exact absurd rfl submitted
      | listener => exact absurd rfl submitted
  | refused asks => exact absurd rfl submitted
  | unaccepted asks rejected => exact absurd rfl submitted
  | @runFailed heading body code cause asks accepted =>
      have failed := succeeded (.run code, false) (by simp [outcomes, Occurrence.outcome?])
      cases failed
  | listed begun =>
      cases begun with
      | view asks => exact absurd rfl submitted
      | submit asks accepted => exact ⟨_, _, rfl, rfl⟩
  | listFailed begun =>
      have failed := succeeded (.listPeers, false) (by simp [outcomes, Occurrence.outcome?])
      cases failed

variable [DecidableEq ι]

/-- A run in which every call succeeds and every request is answered. -/
structure Fulfilled (entry : Http.Entry) (events : List (Event ι)) : Prop where
  succeeded : ∀ outcome ∈ outcomes (past (server entry) events), outcome.2 = true
  answered : ∀ item ∈ (reached (server entry) events).exchanges, item.2.progress.isDone = true

theorem Fulfilled.result {entry : Http.Entry} {events : List (Event ι)}
    (fulfilled : Fulfilled entry events) {id : ι} {line : Text}
    (submitted : (id, line) ∈ submissions (past (server entry) events)) :
    ∃ output, results (own id (past (server entry) events)) = [(id, output)] := by
  have mine : (id, line) ∈ submissions (own id (past (server entry) events)) := by
    rw [Server.submissions_own, List.mem_filter]
    exact ⟨submitted, by simp⟩
  obtain ⟨standing?, found, course⟩ := reached_course entry events id
  cases standing? with
  | none =>
      rw [course.of_nowhere] at mine
      cases mine
  | some standing =>
      have done : standing.exchange.progress.isDone = true :=
        fulfilled.answered (id, standing.exchange) (Server.find?_mem _ id _ found)
      obtain ⟨received, _, ended⟩ := course.of_done done
      obtain ⟨code, output, _, result⟩ := ended.of_submitted (List.ne_nil_of_mem mine) (by
        intro outcome member
        refine fulfilled.succeeded outcome ?_
        obtain ⟨occurrence, happened, same⟩ := List.mem_filterMap.mp member
        exact List.mem_filterMap.mpr ⟨occurrence, (List.mem_filter.mp happened).1, same⟩)
      exact ⟨output, result⟩

/-- Once all is answered, the session shows the result of the code that it shows exactly if the
node answered that submission last, or gave an answer in its place that looks the same. -/
theorem store_answers_code_iff (entry : Http.Entry) (events : List (Event ι)) (id : ι) (line : Text)
    (fulfilled : Fulfilled entry events)
    (last : (submissions (past (server entry) events)).getLast? = some (id, line)) :
    let session := (reached (server entry) events).session
    ∃ output latest, results (own id (past (server entry) events)) = [(id, output)] ∧
      (results (past (server entry) events)).getLast? = some latest ∧
      session.code = line ∧ session.store = Page.layOutStore latest.2 ∧
      (session.store = Page.layOutStore output ↔
        latest.1 = id ∨ Page.layOutStore latest.2 = Page.layOutStore output) := by
  intro session
  obtain ⟨output, mine⟩ := fulfilled.result (List.mem_of_getLast? last)
  have belongs : ∀ result, result ∈ results (past (server entry) events) → result.1 = id →
      result = (id, output) := by
    intro result member same
    have owned : result ∈ results (own id (past (server entry) events)) := by
      rw [Server.results_own, List.mem_filter]
      exact ⟨member, by simpa using same⟩
    rw [mine] at owned
    exact List.mem_singleton.mp owned
  have some_result : results (past (server entry) events) ≠ [] := by
    intro empty
    rw [Server.results_own, empty] at mine
    cases mine
  cases latest : (results (past (server entry) events)).getLast? with
  | none => exact absurd (List.getLast?_eq_none_iff.mp latest) some_result
  | some result =>
      have code : session.code = line := by
        simp only [session]
        rw [reached_session, remembered_code, last]
        rfl
      have store : session.store = Page.layOutStore result.2 := by
        simp only [session]
        rw [reached_session, remembered_store, latest]
        rfl
      refine ⟨output, result, mine, rfl, code, store, ?_⟩
      rw [store]
      constructor
      · exact .inr
      · rintro (same | alike)
        · rw [belongs result (List.mem_of_getLast? latest) same]
        · exact alike

theorem crossed_store :
    Fulfilled .listener crossed ∧
    ∃ output latest, results (own 2 (past (server .listener) crossed)) = [(2, output)] ∧
      (results (past (server .listener) crossed)).getLast? = some latest ∧
      (reached (server .listener) crossed).session.code = "b" ∧
      (reached (server .listener) crossed).session.store = Page.layOutStore latest.2 ∧
      ((reached (server .listener) crossed).session.store = Page.layOutStore output ↔
        latest.1 = 2 ∨ Page.layOutStore latest.2 = Page.layOutStore output) := by
  have fulfilled : Fulfilled .listener crossed := ⟨by decide +kernel, by decide +kernel⟩
  exact ⟨fulfilled, store_answers_code_iff .listener crossed 2 "b" fulfilled (by decide +kernel)⟩

/-- The result beside the last code need not be that code's. -/
theorem stale_result_kept :
    ¬ ∀ (events : List (Event Nat)) (id : Nat) (line output : Text),
      Fulfilled .listener events →
      (submissions (past (server .listener) events)).getLast? = some (id, line) →
      (id, output) ∈ results (past (server .listener) events) →
      (reached (server .listener) events).session.store = Page.layOutStore output := by
  intro fresh
  have fulfilled : Fulfilled .listener crossed := ⟨by decide +kernel, by decide +kernel⟩
  have shown := fresh crossed 2 "b" "B" fulfilled (by decide +kernel) (by decide +kernel)
  revert shown
  decide +kernel

end NodeConsole.Ui
