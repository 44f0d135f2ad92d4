import NodeConsole.Failure

/-!
Waiting until a server is bound. One listener waits for the server to listen and one for it to
fail. Each takes itself away when its event comes; when the server listens, the other goes too.
-/

namespace NodeConsole.Http

/-- The address of a bound server: a socket with its port, a pipe, or none at all. -/
inductive Address where
  | socket (port : Int)
  | pipe (path : Text)
  | none
deriving DecidableEq, Repr

structure Listeners where
  error : Nat := 0
  listening : Nat := 0
deriving DecidableEq, Repr

inductive Binding where
  | bound (address : Address)
  | failed (message : Text)
deriving DecidableEq, Repr

structure Listening where
  host : Text
  port : Int
  listeners : Listeners
  /-- The port that the server is bound to: that of a socket, or else the one asked for. -/
  result : Except Failure Int
deriving Repr

def anyHost : Text := "0.0.0.0"

def listen (host : Option Text) (port : Int) (binding : Binding) : Listening :=
  let waiting : Listeners := { error := 1, listening := 1 }
  let host := host.getD anyHost
  match binding with
  | .failed message =>
    { host, port
      listeners := { waiting with error := waiting.error - 1 }
      result := .error (.foreign message) }
  | .bound address =>
    { host, port
      listeners := { error := waiting.error - 1, listening := waiting.listening - 1 }
      result := .ok (match address with
        | .socket bound => bound
        | _ => port) }

end NodeConsole.Http
