import NodeConsole.Failure
import NodeConsole.Number.Shortest
import NodeConsole.Page.Escape

/-!
Responses: the status and headers are written once, and of several bodies the first one is sent.
-/

namespace NodeConsole.Http

structure Head where
  status : Int
  headers : List (String × String)
deriving DecidableEq, Repr

structure Response where
  head : Option Head := none
  body : Text := ""
  ends : Nat := 0
deriving DecidableEq, Repr, Inhabited

namespace Response

def writeHead (response : Response) (status : Int) (headers : List (String × String)) :
    Except Failure Response :=
  match response.head with
  | some _ => .error .headersSent
  | none => .ok { response with head := some { status, headers } }

def finish (response : Response) (body : Text) : Response :=
  { response with
    body := if response.ends = 0 then body else response.body
    ends := response.ends + 1 }

def htmlHeaders : List (String × String) := [("Content-Type", "text/html; charset=utf-8")]

def sendHtml (response : Response) (html : Text) (status : Int) : Except Failure Response :=
  (response.writeHead status htmlHeaders).map fun headed => headed.finish html

def sendError (response : Response) (message : Text) (status : Int) : Except Failure Response :=
  response.sendHtml (Page.errorPage (Number.integerText status) message) status

end Response

end NodeConsole.Http
