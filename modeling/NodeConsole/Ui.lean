import NodeConsole.Http.Server
import NodeConsole.Page.Diagnostics
import NodeConsole.Page.StoreListing

/-!
The web page of a node. Looking at it lists the node's peers beside the last code and its result;
submitting code runs it first.
-/

namespace NodeConsole.Ui

open Http (Handler Route Server)

def codeField : String := "rho1"

def page (peers : List Text) (session : Session) : Text :=
  Page.diagnostics { peers, code := session.code, store := session.store }

def showPage : Handler :=
  .ask .listPeers fun peers =>
  .view fun session =>
  .send 200 (page peers session) .finish

def runCode (code : Text) : Handler :=
  .submit code <|
  .ask (.run code) fun output =>
  .complete (Page.layOutStore output) showPage

def submitForm : Handler :=
  .readForm fun form =>
    match form.get? codeField with
    | none => .fail (.missingField codeField)
    | some code => runCode code

def routes : List Route := [
  { method := "GET", path := "/", handler := showPage },
  { method := "POST", path := "/", handler := submitForm }]

def server (entry : Http.Entry) : Server where
  entry := entry
  routes := routes

end NodeConsole.Ui
