import NodeConsole.Http.Exchange

/-!
A server with one session and any number of exchanges under way. Requests arrive, their bodies
come in, and the node replies to their calls, in any order; each of these is an event, and an
exchange moves only with events of its own. `Server.serve` is the special case of a request whose
body and replies are all there at once.
-/

namespace NodeConsole.Http

structure Server where
  entry : Entry
  routes : List Route

namespace Server

structure State (ι : Type) where
  session : Session := {}
  exchanges : List (ι × Exchange) := []

inductive Event (ι : Type) where
  | arrive (id : ι) (request : Request)
  | chunk (id : ι) (content : List UInt8)
  | bodyEnd (id : ι)
  | bodyAbort (id : ι) (message : Text)
  /-- The node replies to whatever call the request waits for. -/
  | reply (id : ι) (answer : (call : NodeCall) → Except Failure call.Reply)

inductive Notice (ι : Type) where
  | called (id : ι) (call : NodeCall)
  | logged (id : ι) (entry : LogEntry)
  | finished (id : ι) (exchange : Exchange)

variable {ι : Type} [DecidableEq ι]

def find? (state : State ι) (id : ι) : Option Exchange :=
  (state.exchanges.find? fun entry => entry.1 = id).map (·.2)

def put (id : ι) (exchange : Exchange) : List (ι × Exchange) → List (ι × Exchange)
  | [] => [(id, exchange)]
  | (other, old) :: rest =>
    if other = id then (id, exchange) :: rest else (other, old) :: put id exchange rest

def notices (id : ι) (step : Step Unit) : List (Notice ι) :=
  step.calls.map (.called id) ++ step.logs.map (.logged id) ++
    (if step.exchange.progress.isDone then [.finished id step.exchange] else [])

def after (state : State ι) (id : ι) (step : Step Unit) : State ι × List (Notice ι) :=
  ({ session := step.session, exchanges := put id step.exchange state.exchanges },
    notices id step)

def move (state : State ι) (id : ι) (act : Exchange → Step Unit) : State ι × List (Notice ι) :=
  match find? state id with
  | none => (state, [])
  | some exchange =>
    if exchange.progress.isDone then (state, []) else after state id (act exchange)

def step (server : Server) (state : State ι) : Event ι → State ι × List (Notice ι)
  | .arrive id request =>
    match find? state id with
    | some _ => (state, [])
    | none =>
      after state id (Exchange.start server.entry .none server.routes request state.session ())
  | .chunk id content =>
    move state id fun exchange => (exchange.receive content).still state.session ()
  | .bodyEnd id =>
    move state id fun exchange =>
      exchange.resumeForm server.entry .none exchange.body.form state.session ()
  | .bodyAbort id message =>
    move state id fun exchange =>
      exchange.resumeForm server.entry .none (.error (.foreign message)) state.session ()
  | .reply id answer =>
    move state id fun exchange =>
      exchange.resumeReply server.entry .none answer state.session ()

def bodyEvents (id : ι) (request : Request) : List (Event ι) :=
  request.body.map (.chunk id) ++
    [match request.abort with
      | some message => .bodyAbort id message
      | none => .bodyEnd id]

def runEvents (server : Server) (state : State ι) (events : List (Event ι)) :
    State ι × List (Notice ι) :=
  events.foldl (fun (current, seen) event =>
    let (next, new) := server.step current event
    (next, seen ++ new)) (state, [])

variable {σ : Type}

/-- Handles a request whose body is there and whose calls are answered at once. -/
def serve (server : Server) (reply : (call : NodeCall) → σ → Except Failure call.Reply × σ)
    (request : Request) (session : Session) (world : σ) : Step σ :=
  let around : Surroundings σ := {
    form := some (Body.formOfChunks request.body request.abort)
    reply := fun call state => some (reply call state) }
  Exchange.start server.entry around server.routes request session world

end Server

end NodeConsole.Http
