import NodeConsole.Form
import NodeConsole.Http.Response
import NodeConsole.Session

/-!
Handlers of requests, as descriptions of what they do step by step: send a page, wait for the form
of the request, ask the node and wait for its reply, use the session, fail. `Handler.advance`
carries a handler out up to the next thing it has to wait for.
-/

namespace NodeConsole.Http

inductive Handler where
  | finish
  | fail (cause : Failure)
  | send (status : Int) (html : Text) (next : Handler)
  | readForm (next : Form → Handler)
  | ask (call : NodeCall) (next : call.Reply → Handler)
  | submit (code : Text) (next : Handler)
  | complete (store : Text) (next : Handler)
  | view (next : Session → Handler)

/-- What is at hand while a handler is carried out: the form, once the body has ended, and a node
that may reply at once. -/
structure Surroundings (σ : Type) where
  form : Option (Except Failure Form)
  reply : (call : NodeCall) → σ → Option (Except Failure call.Reply × σ)

def Surroundings.none : Surroundings Unit where
  form := .none
  reply _ _ := .none

inductive Progress where
  | awaitForm (next : Form → Handler)
  | awaitReply (call : NodeCall) (next : call.Reply → Handler)
  | done (outcome : Except Failure Unit)

def Progress.isDone : Progress → Bool
  | .done _ => true
  | _ => false

structure Turn (σ : Type) where
  session : Session
  response : Response
  world : σ
  calls : List NodeCall := []

namespace Handler

variable {σ : Type}

def advance (around : Surroundings σ) : Handler → Turn σ → Turn σ × Progress
  | .finish, turn => (turn, .done (.ok ()))
  | .fail cause, turn => (turn, .done (.error cause))
  | .send status html next, turn =>
    match turn.response.sendHtml html status with
    | .ok response => next.advance around { turn with response }
    | .error cause => (turn, .done (.error cause))
  | .readForm next, turn =>
    match around.form with
    | none => (turn, .awaitForm next)
    | some (.ok form) => (next form).advance around turn
    | some (.error cause) => (turn, .done (.error cause))
  | .ask call next, turn =>
    let asked := { turn with calls := turn.calls ++ [call] }
    match around.reply call asked.world with
    | none => (asked, .awaitReply call next)
    | some (.ok reply, world) => (next reply).advance around { asked with world }
    | some (.error cause, world) => ({ asked with world }, .done (.error cause))
  | .submit code next, turn =>
    next.advance around { turn with session := turn.session.submit code }
  | .complete store next, turn =>
    next.advance around { turn with session := turn.session.complete store }
  | .view next, turn => (next turn.session).advance around turn

end Handler

end NodeConsole.Http
