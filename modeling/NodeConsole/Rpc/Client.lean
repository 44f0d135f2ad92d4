import NodeConsole.Rpc.Contract
import NodeConsole.Rpc.Target
import NodeConsole.Session
import NodeConsole.Shape

/-!
Calls to a node over a transport: what is sent, and what is made of the outcome. Whatever the
transport brings, a call ends with a reply of its own type or with a `Failure.call`.
-/

namespace NodeConsole.Rpc

open Json (Kind Value)
open Shape (Mismatch)

structure TransportError where
  code : Option Int := none
  details : Option Text := none
  message : Text := ""
deriving DecidableEq, Repr, Inhabited

/-- What a transport makes of a request: the bytes of a response, a value that stands for a
response, or a failure. -/
inductive Outcome where
  | bytes (content : List UInt8)
  | value (content : Value)
  | error (cause : TransportError)
deriving Inhabited

structure Request where
  target : Text
  path : String
  body : List UInt8
deriving DecidableEq, Repr

def service : NodeCall → Service
  | .run _ => .repl
  | .eval _ => .repl
  | .listPeers => .diagnostics

def method : NodeCall → Method
  | .run _ => .run
  | .eval _ => .eval
  | .listPeers => .listPeers

/-- The contract of the node knows every call. -/
theorem node_method_eq (call : NodeCall) :
    Contract.node.method (service call).name (method call).name = .ok (method call) := by
  cases call <;> cbv

def callName (call : NodeCall) : String :=
  (service call).name ++ "." ++ (method call).name

def arguments : NodeCall → Value
  | .run line => .object [("line", .string line)]
  | .eval fileName => .object [("fileName", .string fileName)]
  | .listPeers => .object []

/-- The request for a call with arguments as they are given; one that is missing is not sent. -/
def requestWith (target : Text) (call : NodeCall) (arguments : Value) : Request where
  target := target
  path := methodPath (service call).name (method call).name
  body := (method call).request.encode arguments

def request (target : Text) (call : NodeCall) : Request :=
  requestWith target call (arguments call)

def peers (response : Value) : Except (List Mismatch) (List Text) :=
  match response with
  | .object _ =>
    match response.field "peers" with
    | .array items => Shape.texts [.field "peers"] items
    | other => .error [{ path := [.field "peers"], expected := .array, received := other.kind }]
  | _ => .error [{ path := [], expected := .object, received := response.kind }]

def checked (call : NodeCall) (response : Value) : Except (List Mismatch) call.Reply :=
  match call with
  | .run _ => Shape.textField "output" response
  | .eval _ => Shape.textField "output" response
  | .listPeers => peers response

/-- The failure of a call whose transport failed. The message is the details, or the message of
the transport where there are none. -/
def transportFailure (call : NodeCall) (cause : TransportError) : Failure :=
  let details := cause.details.getD ""
  .call (callName call) (if details = "" then cause.message else details) cause.code cause.details

def mismatchFailure (call : NodeCall) (mismatches : List Mismatch) : Failure :=
  .call (callName call)
    ("Unexpected response: " ++ Shape.listing mismatches) none none

def unreadable : TransportError where
  code := some 13
  details := some "Response message parsing error"

def reply (call : NodeCall) (outcome : Outcome) : Except Failure call.Reply :=
  let accept (response : Value) : Except Failure call.Reply :=
    match checked call response with
    | .ok result => .ok result
    | .error mismatches => .error (mismatchFailure call mismatches)
  match outcome with
  | .error cause => .error (transportFailure call cause)
  | .value response => accept response
  | .bytes content =>
    match (method call).response.decode? content with
    | some response => accept response
    | none => .error (transportFailure call unreadable)

end NodeConsole.Rpc
