import NodeConsole.Http.Body
import NodeConsole.Http.Request
import NodeConsole.Http.Route

/-!
One request and its response. A failure of the handler is logged and answered with an error page.
When that is not possible any more, or when the request has no readable URL, the exchange is
rejected; a listener contains a rejected exchange, a bare dispatcher leaves it to its caller.
-/

namespace NodeConsole.Http

/-- How a request gets in: through a bare dispatcher, or through a listener. -/
inductive Entry where
  | dispatcher
  | listener
deriving DecidableEq, Repr

structure Exchange where
  /-- The method and the path, as the log names them. -/
  heading : Text
  response : Response := {}
  body : Body := {}
  progress : Progress
  /-- What the exchange was rejected with, where nothing contained it. -/
  rejected : Option Failure := none

structure Step (σ : Type) where
  exchange : Exchange
  session : Session
  world : σ
  calls : List NodeCall := []
  logs : List LogEntry := []

namespace Exchange

structure Conclusion where
  response : Response
  logs : List LogEntry
  rejected : Option Failure

def reject (entry : Entry) (response : Response) (logs : List LogEntry) (cause : Failure) :
    Conclusion :=
  match entry with
  | .dispatcher => { response, logs, rejected := some cause }
  | .listener =>
    { response := match response.sendError "Internal Server Error" 500 with
        | .ok answered => answered
        | .error _ => response.finish ""
      logs := logs ++ [{ level := .error, text := "Unhandled request error:", cause := some cause }]
      rejected := none }

def conclude (entry : Entry) (heading : Text) (response : Response) :
    Except Failure Unit → Conclusion
  | .ok () => { response, logs := [], rejected := none }
  | .error cause =>
    let logs := [{ level := .error, text := heading ++ " failed:", cause := some cause }]
    match response.sendError cause.pageMessage cause.responseStatus with
    | .ok answered => { response := answered, logs, rejected := none }
    | .error second => reject entry response logs second

variable {σ : Type}

def run (entry : Entry) (around : Surroundings σ) (exchange : Exchange) (handler : Handler)
    (session : Session) (world : σ) : Step σ :=
  let (turn, progress) := handler.advance around { session, response := exchange.response, world }
  match progress with
  | .done outcome =>
    let conclusion := conclude entry exchange.heading turn.response outcome
    { exchange := {
        exchange with
        response := conclusion.response
        progress := progress
        rejected := conclusion.rejected }
      session := turn.session
      world := turn.world
      calls := turn.calls
      logs := conclusion.logs }
  | _ =>
    { exchange := { exchange with response := turn.response, progress := progress }
      session := turn.session
      world := turn.world
      calls := turn.calls }

def closed (heading : Text) (conclusion : Conclusion) (session : Session) (world : σ) : Step σ :=
  { exchange := {
      heading
      response := conclusion.response
      progress := .done (.ok ())
      rejected := conclusion.rejected }
    session
    world
    logs := conclusion.logs }

def refuse (entry : Entry) (message : Text) (status : Int) : Conclusion :=
  match ({} : Response).sendError message status with
  | .ok response => { response, logs := [], rejected := none }
  | .error cause => reject entry {} [] cause

def start (entry : Entry) (around : Surroundings σ) (routes : List Route) (request : Request)
    (session : Session) (world : σ) : Step σ :=
  match request.url? with
  | none => closed "" (reject entry {} [] .invalidUrl) session world
  | some url =>
    let heading := request.methodName ++ " " ++ url.pathname
    match Route.select routes request.methodName url.pathname with
    | .handle handler =>
      run entry around { heading, progress := .done (.ok ()) } handler session world
    | .methodNotAllowed => closed heading (refuse entry "Method Not Allowed" 405) session world
    | .notFound => closed heading (refuse entry "Not Found" 404) session world

def still (exchange : Exchange) (session : Session) (world : σ) : Step σ :=
  { exchange, session, world }

/-- A chunk of the body arrives; a handler that does not wait for a form never sees it. -/
def receive (exchange : Exchange) (chunk : List UInt8) : Exchange :=
  match exchange.progress with
  | .awaitForm _ => { exchange with body := exchange.body.receive chunk }
  | _ => exchange

/-- The body has ended, with the form or the failure that there is instead. -/
def resumeForm (entry : Entry) (around : Surroundings σ) (exchange : Exchange)
    (form : Except Failure Form) (session : Session) (world : σ) : Step σ :=
  match exchange.progress with
  | .awaitForm next =>
    match form with
    | .ok fields => run entry around exchange (next fields) session world
    | .error cause => run entry around exchange (.fail cause) session world
  | _ => still exchange session world

def resumeReply (entry : Entry) (around : Surroundings σ) (exchange : Exchange)
    (reply : (call : NodeCall) → Except Failure call.Reply) (session : Session) (world : σ) :
    Step σ :=
  match exchange.progress with
  | .awaitReply call next =>
    match reply call with
    | .ok result => run entry around exchange (next result) session world
    | .error cause => run entry around exchange (.fail cause) session world
  | _ => still exchange session world

end Exchange

end NodeConsole.Http
