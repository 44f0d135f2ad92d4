import NodeConsole.Config.Load
import NodeConsole.Session
import NodeConsole.Shape

/-!
The command line: what its arguments ask for, and the actions that carry it out. The outcome of
every action that depends on the outside is given from outside, so that a run is a list of what
happens in it, in order, and a result. Which version the program has is said by its package, whose
file stands beside the directory of the program; whatever else that file says is not looked at.
-/

namespace NodeConsole

namespace Package

open Json (Value)
open Shape (Mismatch)

def path (directory : Text) : Text :=
  Path.resolve directory ["..", "package.json"]

def misshapen (mismatches : List Mismatch) : Failure :=
  .foreign (Shape.listing mismatches)

def version (system : FileSystem) (directory : Text) : Except Failure Text := do
  let content ← system.document (path directory)
  (Shape.textField "version" content).mapError misshapen

end Package

namespace CommandLine

inductive Mode where
  | web
  | inline (code : Text)
  | file (fileName : Text)
deriving DecidableEq, Repr

/-- What the arguments ask for; the first of them is the program. A flag counts wherever it
stands, `-w` before `-c`, and the code is the last argument. -/
def mode (arguments : List Text) : Except Failure Mode :=
  if arguments.contains "-w" then .ok .web
  else if arguments.contains "-c" then .ok (.inline (arguments.getLast?.getD ""))
  else
    match arguments with
    | _ :: fileName :: _ => .ok (.file fileName)
    | _ => .error (.invalidUsage "Missing file path (or use -c <code> or -w)")

inductive Info where
  | help
  | version
deriving DecidableEq, Repr

def info? (arguments : List Text) : Option Info :=
  if arguments.contains "-w" || arguments.contains "-c" then none
  else
    arguments[1]?.bind fun (first : Text) =>
      if first = "--help" ∨ first = "-h" then some .help
      else if first = "--version" ∨ first = "-v" then some .version
      else none

def usage : String :=
  "\n".intercalate [
    "",
    "rnode client",
    "",
    "Run Rholang on a running rnode, or browse its diagnostics.",
    "",
    "USAGE:",
    "  rnode-client -w                 Start the web UI",
    "  rnode-client -c '<code>'        Run inline code and print the result",
    "  rnode-client <file.rho>         Evaluate a file (path as seen by the node)",
    "",
    "OPTIONS (only as the first argument, without -w or -c):",
    "  -h, --help                      Show this help",
    "  -v, --version                   Show version number",
    "",
    "ENVIRONMENT:",
    "  RNODE_HOST                      Node host (default: 127.0.0.1)",
    "  RNODE_PORT                      Node gRPC port (default: 50000)",
    "  RNODE_WEB_PORT                  Web UI port (default: 8888)",
    "  RNODE_CONFIG                    Config file (default: rnode.config.json or .rnoderc)",
    ""]

def infoText (version : Except Failure Text) : Info → Except Failure Text
  | .help => .ok (usage ++ "\n" : String)
  | .version => version.map fun version => "rnode-client v" ++ version ++ "\n"

def webHost : String := "0.0.0.0"

def addressLine (webPort : Int) : String :=
  "rnode web UI at http://" ++ webHost ++ ":" ++ Number.integerText webPort ++ "\n"

inductive Action where
  | warn (entry : LogEntry)
  | connect (host : Text) (port : Int)
  | serve (webPort : Int)
  | call (call : NodeCall)
  /-- What was waited for has come: the reply to the call or its failure, or the outcome of
  serving. -/
  | settled
  | write (text : Text)
  | close
deriving DecidableEq, Repr

structure Trace where
  actions : List Action
  outcome : Except Failure Unit

/-- How the outside lets a run go: which version the program says it is, whether the connection
opens, whether the page can be served, and what the node replies. -/
structure Outside where
  version : Except Failure Text
  connect : Text → Int → Except Failure Unit := fun _ _ => .ok ()
  serve : Except Failure Unit := .ok ()
  reply : (call : NodeCall) → Except Failure call.Reply

/-- A connected run that has the node evaluate something: the output is written, and the
connection is closed however the call went. -/
def evaluate (opened : Action) (call : NodeCall) (output : Except Failure Text) : Trace :=
  match output with
  | .ok text =>
    { actions := [opened, .call call, .settled, .write (text ++ "\n"), .close]
      outcome := .ok () }
  | .error cause => { actions := [opened, .call call, .settled, .close], outcome := .error cause }

/-- A connected run that serves the page: it stays connected unless the page cannot be served. -/
def serve (opened : Action) (webPort : Int) (served : Except Failure Unit) : Trace :=
  match served with
  | .ok () =>
    { actions := [opened, .serve webPort, .settled, .write (addressLine webPort)]
      outcome := .ok () }
  | .error cause =>
    { actions := [opened, .serve webPort, .settled, .close], outcome := .error cause }

def inform : Except Failure Text → Trace
  | .ok text => { actions := [.write text], outcome := .ok () }
  | .error cause => { actions := [], outcome := .error cause }

def run (outside : Outside) (config : Config) (arguments : List Text) : Trace :=
  match mode arguments with
  | .error cause => { actions := [], outcome := .error cause }
  | .ok mode =>
    let opened := Action.connect config.host config.port
    match outside.connect config.host config.port with
    | .error cause => { actions := [opened], outcome := .error cause }
    | .ok () =>
      match mode with
      | .web => serve opened config.webPort outside.serve
      | .inline code => evaluate opened (.run code) (outside.reply (.run code))
      | .file fileName => evaluate opened (.eval fileName) (outside.reply (.eval fileName))

def invoke (outside : Outside) (loaded : Config.Loaded) (arguments : List Text) : Trace :=
  match info? arguments with
  | some info => inform (infoText outside.version info)
  | none =>
    let warnings := loaded.warnings.map Action.warn
    match loaded.result with
    | .error cause => { actions := warnings, outcome := .error cause }
    | .ok config =>
      let trace := run outside config arguments
      { trace with actions := warnings ++ trace.actions }

namespace Trace

def writes (trace : Trace) : List Text :=
  trace.actions.filterMap fun
    | .write text => some text
    | _ => none

def connects (trace : Trace) : List (Text × Int) :=
  trace.actions.filterMap fun
    | .connect host port => some (host, port)
    | _ => none

def served (trace : Trace) : List Int :=
  trace.actions.filterMap fun
    | .serve webPort => some webPort
    | _ => none

def calls (trace : Trace) : List NodeCall :=
  trace.actions.filterMap fun
    | .call call => some call
    | _ => none

def warnings (trace : Trace) : List LogEntry :=
  trace.actions.filterMap fun
    | .warn entry => some entry
    | _ => none

def closes (trace : Trace) : Nat :=
  trace.actions.count .close

end Trace

end CommandLine

end NodeConsole
