import NodeConsole.Text.Basic

/-!
What can be asked of a node and what it answers: running a line of code or a file gives the output,
and it can list its peers. The web page remembers the code that was submitted last and the store
contents that the node answered last; code is remembered when it is sent, contents when they arrive.
-/

namespace NodeConsole

inductive NodeCall where
  | run (line : Text)
  | eval (fileName : Text)
  | listPeers
deriving DecidableEq, Repr

abbrev NodeCall.Reply : NodeCall → Type
  | .run _ => Text
  | .eval _ => Text
  | .listPeers => List Text

inductive Phase where
  | idle
  | hasResult
deriving DecidableEq, Repr

structure Session where
  code : Text := ""
  store : Text := ""
  phase : Phase := .idle
deriving DecidableEq, Repr, Inhabited

namespace Session

def fresh : Session := {}

def submit (session : Session) (code : Text) : Session :=
  { session with code }

def complete (session : Session) (store : Text) : Session :=
  { session with store, phase := .hasResult }

end Session

end NodeConsole
