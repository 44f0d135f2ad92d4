import NodeConsole.Program
import NodeConsole.Proofs.FormCoding
import NodeConsole.Proofs.Reception
import NodeConsole.Proofs.Replies
import NodeConsole.Proofs.StoreListing

/-!
The page as a machine that takes one request after another. Its state is the session; a request may
take one outcome of the transport, or two, and every answer says what was sent for it. A server
over a connection to a node answers as the machine does, sends the same, and has the same session
after every request.
-/

namespace NodeConsole

namespace Ui

open Http (Body Delivery Exchange Handler Progress Request Response Step Surroundings)
open Program (Line Served Transport transmit)

namespace Machine

structure Answer where
  response : Response
  /-- The paths and the bytes of what is sent to the node. -/
  sent : List (String × List UInt8) := []
  session : Session
deriving DecidableEq

def list (session : Session) (transport : Transport) : Answer × Transport :=
  let response : Response :=
    match Rpc.hear .listPeers transport.next with
    | .ok peers => .whole 200 (page peers session)
    | .error reason => .ofError (Rpc.complaint .listPeers reason) 502
  ({ response, sent := [("/rnode.Diagnostics/ListPeers", [])], session }, transport.drop 1)

def run (code : String) (session : Session) (transport : Transport) : Answer × Transport :=
  let submitted := { session with code := code }
  let request := ("/rnode.Repl/Run", Wire.textField (Utf8.ofString code))
  match Rpc.hear (.run code) transport.next with
  | .ok output =>
    let store := Text.mk (Page.breakLines output.units)
    let (answer, rest) := list { submitted with store, phase := .hasResult } (transport.drop 1)
    ({ answer with sent := request :: answer.sent }, rest)
  | .error reason =>
    ({ response := .ofError (Rpc.complaint (.run code) reason) 502, sent := [request]
       session := submitted }, transport.drop 1)

def codeOf (request : Request) : Except (Text × Int) String :=
  match request.abort with
  | some message => .error (message, 500)
  | none =>
    if 1024 * 1024 < request.body.flatten.length then .error ("Request body too large", 413)
    else
      match (Form.ofBytes request.body.flatten).pairs.lookup "rho1" with
      | some code => .ok code
      | none => .error ("Missing form field: rho1", 400)

def turnDown (message : Text) (status : Int) (session : Session) (transport : Transport) :
    Answer × Transport :=
  ({ response := .ofError message status, session }, transport)

def submit (request : Request) (session : Session) (transport : Transport) : Answer × Transport :=
  match codeOf request with
  | .ok code => run code session transport
  | .error (message, status) => turnDown message status session transport

def answer (session : Session) (transport : Transport) (request : Request) : Answer × Transport :=
  match purpose request with
  | .unreadable => turnDown "Internal Server Error" 500 session transport
  | .otherPath => turnDown "Not Found" 404 session transport
  | .otherMethod => turnDown "Method Not Allowed" 405 session transport
  | .view => list session transport
  | .submit => submit request session transport

def answers (session : Session) (transport : Transport) : List Request → List Answer
  | [] => []
  | request :: rest =>
    let (answer, left) := answer session transport request
    answer :: answers answer.session left rest

end Machine

def served (session : Session) (line : Line) : List Request → List (Served × Session)
  | [] => []
  | request :: rest =>
    let step := (server .listener).serve transmit request session { line with sent := [] }
    ({ exchange := step.exchange, logs := step.logs, sent := step.world.sent }, step.session) ::
      served step.session { step.world with sent := line.sent ++ step.world.sent } rest

theorem codeIn_formOfChunks (request : Request) :
    match codeIn (Body.formOfChunks request.body request.abort) with
    | .ok code => ∃ text : String, Machine.codeOf request = .ok text ∧ code = text
    | .error cause => ∃ message status, Machine.codeOf request = .error (message, status) ∧
        Response.ofFailure cause = .ofError message status := by
  obtain ⟨method, target, host, chunks, abort⟩ := request
  cases abort with
  | some message => exact ⟨message, 500, rfl, rfl⟩
  | none =>
      have form : some (Body.formOfChunks chunks none) =
          if chunks.flatten.length ≤ 1024 * 1024 then some (.ok (Form.ofBytes chunks.flatten))
          else some (.error (.request "Request body too large" 413)) := Body.form_eq chunks
      simp only [Machine.codeOf]
      by_cases within : chunks.flatten.length ≤ 1024 * 1024
      · rw [if_pos within, Option.some.injEq] at form
        rw [form, if_neg (Nat.not_lt.mpr within)]
        have found : _ = (Form.ofBytes chunks.flatten).pairs.lookup "rho1" :=
          Form.get?_eq_lookup (Form.ofBytes chunks.flatten) codeField
        cases stands : (Form.ofBytes chunks.flatten).get? codeField with
        | none =>
            rw [stands] at found
            simp only [codeIn, stands]
            exact ⟨"Missing form field: rho1", 400, by rw [← found], rfl⟩
        | some code =>
            rw [stands] at found
            simp only [codeIn, stands]
            exact ⟨code, by rw [← found], rfl⟩
      · rw [if_neg within, Option.some.injEq] at form
        rw [form, if_pos (Nat.lt_of_not_le within)]
        exact ⟨_, 413, rfl, rfl⟩

variable {σ : Type}

/-- A handler that goes to its end over a line answers, and leaves the line as the machine says. -/
structure Carried (line : Line) (result : Http.Turn Line × Progress)
    (answered : Machine.Answer × Transport) : Prop where
  session : result.1.session = answered.1.session
  world : result.1.world = {
    target := line.target
    transport := answered.2
    sent := line.sent ++ answered.1.sent.map fun (path, body) =>
      { target := line.target, path, body } }
  response : result.2 = .done (.ok ()) ∧ result.1.response = answered.1.response ∨
    ∃ cause, result.2 = .done (.error cause) ∧ result.1.response = {} ∧
      answered.1.response = .ofFailure cause

theorem showPage_carried (around : Surroundings Line)
    (replies : around.reply = fun call line => some (transmit call line)) (session : Session)
    (line : Line) (calls : List NodeCall) :
    Carried line (showPage.advance around { session, response := {}, world := line, calls })
      (Machine.list session line.transport) := by
  have heard := reply_heard .listPeers line.transport.next
  rw [showPage, Handler.advance, replies]
  simp only [transmit, Rpc.request_listPeers]
  cases replied : Rpc.reply .listPeers line.transport.next with
  | ok peers =>
      rw [replied] at heard
      refine ⟨rfl, rfl, .inl ⟨rfl, ?_⟩⟩
      simp only [Machine.list, heard]
      rfl
  | error cause =>
      rw [replied] at heard
      obtain ⟨reason, heard, page⟩ := heard
      refine ⟨rfl, rfl, .inr ⟨cause, rfl, rfl, ?_⟩⟩
      simp only [Machine.list, heard, page]

theorem runCode_carried (around : Surroundings Line)
    (replies : around.reply = fun call line => some (transmit call line)) (session : Session)
    (line : Line) (code : String) :
    Carried line ((runCode code).advance around { session, response := {}, world := line })
      (Machine.run code session line.transport) := by
  have heard := reply_heard (.run code) line.transport.next
  rw [runCode, Handler.advance, Handler.advance, replies]
  simp only [transmit, Rpc.request_run]
  cases replied : Rpc.reply (.run code) line.transport.next with
  | ok output =>
      rw [replied] at heard
      -- the result stays in the session even if the peers then do not come
      have later := showPage_carried around replies
        ((session.submit code).complete ⟨Page.breakLines output.units⟩)
        { line with
          transport := line.transport.drop 1
          sent := line.sent ++ [{
            target := line.target
            path := "/rnode.Repl/Run"
            body := Wire.textField (Utf8.ofString code) }] }
        [.run code]
      simp only [Machine.run, heard, Handler.advance, Page.layOutStore_eq]
      refine ⟨later.session, ?_, later.response⟩
      refine later.world.trans ?_
      simp only [List.append_assoc, List.singleton_append, List.map_cons]
      rfl
  | error cause =>
      rw [replied] at heard
      obtain ⟨reason, heard, page⟩ := heard
      simp only [Machine.run, heard]
      refine ⟨rfl, rfl, .inr ⟨cause, rfl, rfl, ?_⟩⟩
      exact page.symm

theorem submitForm_carried (around : Surroundings Line)
    (replies : around.reply = fun call line => some (transmit call line)) (request : Request)
    (form : around.form = some (Body.formOfChunks request.body request.abort)) (session : Session)
    (line : Line) :
    Carried line (submitForm.advance around { session, response := {}, world := line })
      (Machine.submit request session line.transport) := by
  have accepted := codeIn_formOfChunks request
  rw [submitForm, Handler.advance, form]
  cases received : Body.formOfChunks request.body request.abort with
  | error cause =>
      rw [received] at accepted
      obtain ⟨message, status, refused, page⟩ := accepted
      rw [Machine.submit, refused]
      exact ⟨rfl, by simp [Machine.turnDown], .inr ⟨cause, rfl, rfl, page.symm⟩⟩
  | ok fields =>
      rw [received] at accepted
      simp only
      cases named : fields.get? codeField with
      | none =>
          simp only [codeIn, named] at accepted
          obtain ⟨message, status, refused, page⟩ := accepted
          rw [Machine.submit, refused]
          exact ⟨rfl, by simp [Machine.turnDown, Handler.advance], .inr ⟨_, rfl, rfl, page.symm⟩⟩
      | some code =>
          simp only [codeIn, named] at accepted
          obtain ⟨text, submitted, same⟩ := accepted
          obtain rfl := Text.ofString_injective same
          rw [Machine.submit, submitted]
          exact runCode_carried around replies session line code

structure Answers (line : Line) (step : Step Line) (answered : Machine.Answer × Transport) :
    Prop where
  response : step.exchange.response = answered.1.response
  session : step.session = answered.1.session
  world : step.world = {
    target := line.target
    transport := answered.2
    sent := line.sent ++ answered.1.sent.map fun (path, body) =>
      { target := line.target, path, body } }

theorem Carried.answers {line : Line} {around : Surroundings Line} {handler : Handler}
    {session : Session} {answered : Machine.Answer × Transport}
    (carried : Carried line (handler.advance around { session, response := {}, world := line })
      answered) (heading : Text) :
    Answers line (Exchange.run .listener around { heading, progress := .done (.ok ()) } handler
      session line) answered := by
  obtain ⟨sessionAfter, world, response⟩ := carried
  unfold Exchange.run
  generalize handler.advance around _ = result at sessionAfter world response ⊢
  obtain ⟨turn, progress⟩ := result
  rcases response with ⟨done, sent⟩ | ⟨cause, done, unsent, page⟩
  · cases done
    exact ⟨sent, sessionAfter, world⟩
  · cases done
    refine ⟨?_, sessionAfter, world⟩
    have concluded : (Exchange.conclude .listener heading {} (.error cause)).response =
        .ofFailure cause := rfl
    rw [page, ← concluded]
    exact congrArg (fun response =>
      (Exchange.conclude .listener heading response (.error cause)).response) unsent

theorem serve_answers (session : Session) (line : Line) (request : Request) :
    Answers line ((server .listener).serve transmit request session line)
      (Machine.answer session line.transport request) := by
  have turnedDown (heading message : Text) (status : Int) (conclusion : Exchange.Conclusion)
      (page : conclusion.response = .ofError message status) :
      Answers line (Exchange.closed heading conclusion session line)
        (Machine.turnDown message status session line.transport) :=
    ⟨page, rfl, by simp [Machine.turnDown, Exchange.closed]⟩
  rw [Http.Server.serve]
  change Answers line (Exchange.start .listener _ routes request session line) _
  rw [start_handled, Machine.answer]
  cases purpose request with
  | unreadable => exact turnedDown _ _ _ _ rfl
  | otherPath => exact turnedDown _ _ _ _ rfl
  | otherMethod => exact turnedDown _ _ _ _ rfl
  | view => exact (showPage_carried _ rfl session line []).answers _
  | submit => exact (submitForm_carried _ rfl request rfl session line).answers _

def seen (entry : Served × Session) : Machine.Answer where
  response := entry.1.exchange.response
  sent := entry.1.sent.map fun request => (request.path, request.body)
  session := entry.2

theorem seen_served (session : Session) (line : Line) (requests : List Request) :
    (served session line requests).map seen = Machine.answers session line.transport requests := by
  induction requests generalizing session line with
  | nil => rfl
  | cons request rest ih =>
      obtain ⟨response, sessionAfter, world⟩ :=
        serve_answers session { line with sent := [] } request
      rw [served, List.map_cons, Machine.answers, ih, sessionAfter, world, seen, response]
      simp only [List.nil_append, List.map_map, Function.comp_def, List.map_id']

theorem serveAll_served (session : Session) (line : Line) (requests : List Request) :
    (Program.serveAll session line requests).1 = (served session line requests).map (·.1) ∧
      (Program.serveAll session line requests).2.sent =
        line.sent ++ (served session line requests).flatMap (·.1.sent) := by
  induction requests generalizing session line with
  | nil => exact ⟨rfl, (List.append_nil line.sent).symm⟩
  | cons request rest ih =>
      rw [served]
      generalize stepped : (server .listener).serve transmit request session
        { line with sent := [] } = step
      obtain ⟨others, sent⟩ :=
        ih step.session { step.world with sent := line.sent ++ step.world.sent }
      rw [Program.serveAll, stepped]
      refine ⟨congrArg _ others, sent.trans ?_⟩
      rw [List.flatMap_cons, List.append_assoc]

/-- However many requests come one after another, and whatever the transport brings, the server and
the machine, both started fresh, answer alike, send the same to the node, and remember the same. -/
theorem serving_follows_machine (target : Text) (transport : Transport) (requests : List Request) :
    let line : Line := { target, transport }
    let fresh : Session := { code := "", store := "", phase := .idle }
    (served fresh line requests).map seen = Machine.answers fresh transport requests ∧
      (Program.serveAll fresh line requests).1 = (served fresh line requests).map (·.1) ∧
      (Program.serveAll fresh line requests).2.sent.map (fun sent => (sent.path, sent.body)) =
        (Machine.answers fresh transport requests).flatMap (·.sent) := by
  intro line fresh
  have same := seen_served fresh line requests
  obtain ⟨exchanges, sent⟩ := serveAll_served fresh line requests
  refine ⟨same, exchanges, ?_⟩
  rw [sent, ← same, List.flatMap_map, List.nil_append, List.map_flatMap]
  rfl

end Ui

end NodeConsole
