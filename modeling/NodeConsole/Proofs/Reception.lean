import Mathlib.Data.List.Induction
import NodeConsole.Proofs.Turn

/-!
What comes in of a request, told from the events alone: the request itself, and its body chunk by
chunk until it ends or its connection fails. The bytes that a server keeps of a body give the same
form (`Body.form_eq`).
-/

namespace NodeConsole

namespace Http

inductive Delivery where
  | incoming (chunks : List (List UInt8))
  | ended (chunks : List (List UInt8))
  | aborted (message : Text)

namespace Delivery

/-- Nothing counts any more once a body has ended or failed. -/
def next {ι : Type} : Delivery → Server.Event ι → Delivery
  | .incoming chunks, .chunk _ content => .incoming (chunks ++ [content])
  | .incoming chunks, .bodyEnd _ => .ended chunks
  | .incoming _, .bodyAbort _ message => .aborted message
  | delivery, _ => delivery

def isComplete : Delivery → Bool
  | .incoming _ => false
  | _ => true

/-- The form that a complete body brings: it must end, and be within the limit as a whole. -/
def form? : Delivery → Option (Except Failure Form)
  | .incoming _ => none
  | .ended chunks =>
    if chunks.flatten.length ≤ bodyLimit then some (.ok (Form.ofBytes chunks.flatten))
    else some (.error (.request "Request body too large" 413))
  | .aborted message => some (.error (.foreign message))

end Delivery

structure Received where
  request : Request
  delivery : Delivery := .incoming []

def Received.next {ι : Type} (received : Received) (event : Server.Event ι) : Received :=
  { received with delivery := received.delivery.next event }

namespace Server

variable {ι : Type} [DecidableEq ι]

/-- What an event brings of the request of this name; only its first arrival counts. -/
def receive (id : ι) (received? : Option Received) (event : Event ι) : Option Received :=
  if event.id = id then
    match received?, event with
    | some received, event => some (received.next event)
    | none, .arrive _ request => some { request }
    | none, _ => none
  else received?

theorem receive_arrival (id : ι) (request : Request) :
    receive id none (.arrive id request) = some { request } := by
  simp [receive, Event.id]

theorem receive_own (id : ι) (received : Received) (event : Event ι) (about : event.id = id) :
    receive id (some received) event = some (received.next event) := by
  simp [receive, about]

theorem receive_other (id : ι) (received? : Option Received) (event : Event ι)
    (different : event.id ≠ id) : receive id received? event = received? := by
  simp [receive, different]

def received? (id : ι) (events : List (Event ι)) : Option Received :=
  events.foldl (receive id) none

theorem received?_concat (id : ι) (events : List (Event ι)) (event : Event ι) :
    received? id (events ++ [event]) = receive id (received? id events) event := by
  simp [received?, List.foldl_append]

/-- A request stays what it was on its arrival. -/
theorem received?_append {id : ι} {events : List (Event ι)} {received : Received}
    (came : received? id events = some received) (more : List (Event ι)) :
    ∃ delivery, received? id (events ++ more) = some { received with delivery } := by
  induction more using List.reverseRecOn with
  | nil =>
      rw [List.append_nil]
      exact ⟨received.delivery, came⟩
  | append_singleton more event ih =>
      obtain ⟨delivery, arrived⟩ := ih
      rw [← List.append_assoc, received?_concat, arrived]
      by_cases about : event.id = id
      · rw [receive_own id _ event about]
        exact ⟨delivery.next event, rfl⟩
      · rw [receive_other id _ event about]
        exact ⟨delivery, rfl⟩

end Server

namespace Body

structure Holds (body : Body) (chunks : List (List UInt8)) : Prop where
  size : body.size = chunks.flatten.length
  tooLarge : body.tooLarge = true ↔ bodyLimit < chunks.flatten.length
  kept : body.tooLarge = false → body.kept.reverse.flatten = chunks.flatten

theorem Holds.receive {body : Body} {chunks : List (List UInt8)} (holds : Holds body chunks)
    (content : List UInt8) : Holds (body.receive content) (chunks ++ [content]) := by
  have size := holds.size
  have total : (chunks ++ [content]).flatten.length = body.size + content.length := by
    simp [List.flatten_append, size]
  by_cases exceeds : bodyLimit < body.size + content.length
  · constructor
    · simp only [Body.receive, exceeds, if_true, total]
    · simp only [Body.receive, exceeds, if_true, total]
    · intro within
      simp [Body.receive, exceeds] at within
  · have before : body.tooLarge = false := by
      rw [← Bool.not_eq_true, holds.tooLarge]
      omega
    constructor
    · simp only [Body.receive, exceeds, if_false, total]
    · simp only [Body.receive, exceeds, if_false, total, before, Bool.false_eq_true]
    · intro _
      simp [Body.receive, exceeds, holds.kept before]

theorem holds_foldl (chunks : List (List UInt8)) : Holds (chunks.foldl Body.receive {}) chunks := by
  induction chunks using List.reverseRecOn with
  | nil => exact ⟨rfl, by decide, fun _ => rfl⟩
  | append_singleton chunks content ih =>
      rw [List.foldl_append]
      exact ih.receive content

/-- The form of a body is that of its chunks one after another, if they are within the limit. -/
theorem form_eq (chunks : List (List UInt8)) :
    some (chunks.foldl Body.receive {}).form = (Delivery.ended chunks).form? := by
  have holds := holds_foldl chunks
  simp only [Body.form, Delivery.form?]
  by_cases exceeds : bodyLimit < chunks.flatten.length
  · rw [if_pos (holds.tooLarge.mpr exceeds), if_neg (by omega)]
  · have within : (chunks.foldl Body.receive {}).tooLarge = false := by
      rw [← Bool.not_eq_true, holds.tooLarge]
      exact exceeds
    rw [within, if_neg Bool.false_ne_true, holds.kept within, if_pos (by omega)]

end Body

end Http

namespace Ui

open Http

/-- The code that a request submits, or why it is refused, once its body is complete. -/
def submitted? (received : Received) : Option (Except Failure Text) :=
  received.delivery.form?.map codeIn

theorem submitted?_next {ι : Type} (received : Received) (event : Server.Event ι)
    {submission : Except Failure Text} (complete : submitted? received = some submission) :
    received.next event = received := by
  obtain ⟨request, delivery⟩ := received
  cases delivery with
  | incoming chunks => simp [submitted?, Delivery.form?] at complete
  | ended chunks => cases event <;> rfl
  | aborted message => cases event <;> rfl

end Ui

end NodeConsole
