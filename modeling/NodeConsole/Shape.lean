import NodeConsole.Json.Writer

/-!
Places within a value, and the reports of places whose value is of the wrong kind. A message lists
reports as a JSON document.
-/

namespace NodeConsole.Shape

open Json (Kind Value)

inductive Step where
  | field (name : String)
  | item (index : Nat)
deriving DecidableEq, Repr

def Step.toValue : Step → Value
  | .field name => .ofString name
  | .item index => .ofInt index

def kindMessage (expected received : Kind) : String :=
  if received = .absent then "Required"
  else "Expected " ++ expected.name ++ ", received " ++ received.name

structure Mismatch where
  path : List Step
  expected : Kind
  received : Kind
deriving DecidableEq, Repr

namespace Mismatch

def message (mismatch : Mismatch) : String :=
  kindMessage mismatch.expected mismatch.received

def toValue (mismatch : Mismatch) : Value :=
  .object [
    ("code", .ofString "invalid_type"),
    ("expected", .ofString mismatch.expected.name),
    ("received", .ofString mismatch.received.name),
    ("path", .array (mismatch.path.map Step.toValue)),
    ("message", .ofString mismatch.message)]

end Mismatch

def listing (mismatches : List Mismatch) : String :=
  (Value.array (mismatches.map Mismatch.toValue)).indented

def text (path : List Step) : Value → Except (List Mismatch) Text
  | .string value => .ok value
  | value => .error [{ path, expected := .string, received := value.kind }]

def textField (name : String) (value : Value) : Except (List Mismatch) Text :=
  match value with
  | .object _ => text [.field name] (value.field name)
  | _ => .error [{ path := [], expected := .object, received := value.kind }]

/-- Reads every item; the reports of all of them are kept, in order. -/
def texts (path : List Step) (items : List Value) : Except (List Mismatch) (List Text) :=
  let read := items.zipIdx.map fun (item, index) => text (path ++ [.item index]) item
  let reports := read.flatMap fun
    | .ok _ => []
    | .error mismatches => mismatches
  if reports.isEmpty then .ok (read.filterMap Except.toOption) else .error reports

end NodeConsole.Shape
