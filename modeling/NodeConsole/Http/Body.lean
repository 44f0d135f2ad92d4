import NodeConsole.Failure
import NodeConsole.Form

/-!
Receiving the body of a request. Chunks are kept while their total stays within the limit; a body
beyond it is received to its end and then refused.
-/

namespace NodeConsole.Http

def bodyLimit : Nat := 1024 * 1024

structure Body where
  /-- Bytes received so far, kept or not. -/
  size : Nat := 0
  /-- Chunks kept, last first. -/
  kept : List (List UInt8) := []
  tooLarge : Bool := false
deriving Inhabited

namespace Body

def receive (body : Body) (chunk : List UInt8) : Body :=
  let size := body.size + chunk.length
  if bodyLimit < size then { body with size, tooLarge := true }
  else { body with size, kept := chunk :: body.kept }

def form (body : Body) : Except Failure Form :=
  if body.tooLarge then .error (.request "Request body too large" 413)
  else .ok (Form.ofBytes body.kept.reverse.flatten)

/-- The form in chunks that are received one after another; a failure of the connection in place
of the end counts before all else. -/
def formOfChunks (chunks : List (List UInt8)) (abort : Option Text) : Except Failure Form :=
  match abort with
  | some message => .error (.foreign message)
  | none => (chunks.foldl receive {}).form

end Body

end NodeConsole.Http
