import NodeConsole.CommandLine
import NodeConsole.Http.Listen
import NodeConsole.Rpc.Client
import NodeConsole.Ui

/-!
The program as a whole: an invocation over a transport, with what it reports when it fails, and
the web page that it serves until a signal ends it.
-/

namespace NodeConsole.Program

open CommandLine (Trace)

/-- What a transport brings: the outcomes of the requests in order, and the outcome of all requests
behind them. -/
structure Transport where
  outcomes : List Rpc.Outcome := []
  afterwards : Rpc.Outcome
deriving Inhabited

namespace Transport

def next (transport : Transport) : Rpc.Outcome :=
  transport.outcomes.head?.getD transport.afterwards

def drop (count : Nat) (transport : Transport) : Transport :=
  { transport with outcomes := transport.outcomes.drop count }

end Transport

structure Line where
  target : Text
  transport : Transport
  sent : List Rpc.Request := []

def transmit (call : NodeCall) (line : Line) : Except Failure call.Reply × Line :=
  (Rpc.reply call line.transport.next,
    { line with
      transport := line.transport.drop 1
      sent := line.sent ++ [Rpc.request line.target call] })

inductive Signal where
  | interrupt
  | terminate
deriving DecidableEq, Repr

structure Invocation where
  system : FileSystem
  /-- The directory that the program stands in. -/
  directory : Text
  environment : Environment
  /-- The arguments behind the name of the program. -/
  arguments : List Text

structure Happenings where
  transport : Transport
  listening : Except Failure Unit := .ok ()
  requests : List Http.Request := []
  signal : Option Signal := none

structure Served where
  exchange : Http.Exchange
  logs : List LogEntry
  sent : List Rpc.Request

structure Report where
  stdout : List Text
  stderr : List LogEntry
  exit : Option Nat
  listened : List (String × Int)
  served : List Served
  sent : List Rpc.Request
  closes : Nat
  /-- How many handlers the signal set off. -/
  handlers : Nat

/-- What a failed invocation writes: the message and, if it was not understood, the usage. -/
def complaint (cause : Failure) : List LogEntry :=
  let line : LogEntry := { level := .error, text := "Error: " ++ cause.message }
  match cause with
  | .invalidUsage _ => [line, { level := .error, text := CommandLine.usage }]
  | _ => [line]

def serveAll (session : Session) (line : Line) : List Http.Request → List Served × Line
  | [] => ([], line)
  | request :: rest =>
    let step := (Ui.server .listener).serve transmit request session { line with sent := [] }
    let (others, last) :=
      serveAll step.session { step.world with sent := line.sent ++ step.world.sent } rest
    ({ exchange := step.exchange, logs := step.logs, sent := step.world.sent } :: others, last)

/-- All arguments of an invocation, the name of the program being the first. -/
def Invocation.allArguments (invocation : Invocation) : List Text :=
  "rnode-client" :: invocation.arguments

def trace (invocation : Invocation) (happenings : Happenings) : Trace :=
  CommandLine.invoke
    { version := Package.version invocation.system invocation.directory
      connect := fun host port => (Rpc.connect host port).map fun _ => ()
      serve := happenings.listening
      reply := fun call => Rpc.reply call happenings.transport.next }
    (Config.load invocation.system invocation.environment) invocation.allArguments

def isServing (trace : Trace) : Bool :=
  !trace.served.isEmpty && trace.outcome.isOk

def run (invocation : Invocation) (happenings : Happenings) : Report :=
  let trace := trace invocation happenings
  let target := match trace.connects with
    | (host, port) :: _ => Rpc.target host port
    | [] => ⟨[]⟩
  let line : Line := {
    target
    transport := happenings.transport.drop trace.calls.length
    sent := trace.calls.map (Rpc.request target) }
  let serving := isServing trace
  let (served, last) := if serving then serveAll {} line happenings.requests else ([], line)
  let handlers := if serving && happenings.signal.isSome then 1 else 0
  { stdout := trace.writes
    stderr := trace.warnings ++ (match trace.outcome with
      | .ok () => []
      | .error cause => complaint cause)
    exit := match trace.outcome with
      | .ok () => if handlers = 0 then none else some 0
      | .error cause => some cause.exitCode
    listened := trace.served.map fun port => (CommandLine.webHost, port)
    served
    sent := last.sent
    closes := trace.closes
    handlers }

end NodeConsole.Program
