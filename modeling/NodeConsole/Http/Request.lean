import NodeConsole.Url.Basic

/-!
Requests as they reach the server. The target is read against the host that the request names, or
against the local host where it names none.
-/

namespace NodeConsole.Http

structure Request where
  method : Option Text := none
  target : Option Text := none
  host : Option Text := none
  /-- The chunks of the body, in the order in which they arrive. -/
  body : List (List UInt8) := []
  /-- The message with which the connection fails in place of the body's end. -/
  abort : Option Text := none
deriving DecidableEq, Repr, Inhabited

namespace Request

def given (text : Option Text) (otherwise : Text) : Text :=
  (text.filter fun given => !given.isEmpty).getD otherwise

def methodName (request : Request) : Text :=
  given request.method "GET"

def base? (host : Option Text) : Option Url :=
  Url.read? none ("http://" ++ (given host "localhost").toString)

def url? (request : Request) : Option Url := do
  let base ← base? request.host
  Url.read? (some base) (given request.target "/").toString

end Request

end NodeConsole.Http
