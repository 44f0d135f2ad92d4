import NodeConsole.Config.Basic
import NodeConsole.Shape

/-!
Which values are configurations. A host is a text that is not empty, a port an integer from 0 to
65535. A whole configuration has all three fields and may have others; settings may lack any of
the three and have no others.
-/

namespace NodeConsole.Config

open Json (Kind Value)

inductive Problem where
  | kind (expected received : Kind)
  | belowRange
  | aboveRange
  | emptyText
  | unknownFields (names : List Text)
deriving DecidableEq, Repr

def greatestPort : Int := 65535

def Problem.message : Problem → Text
  | .kind expected received => Shape.kindMessage expected received
  | .belowRange => "Number must be greater than or equal to 0"
  | .aboveRange => "Number must be less than or equal to 65535"
  | .emptyText => "String must contain at least 1 character(s)"
  | .unknownFields names =>
    "Unrecognized key(s) in object: " ++ Text.join ", " (names.map fun name => "'" ++ name ++ "'")

/-- A problem of one field, or of the whole value when no field is named. -/
structure Issue where
  field : Option String
  problem : Problem
deriving DecidableEq, Repr

def isBelow (bound : Int) : Number → Bool
  | .nan => false
  | .infinite negative => negative
  | .finite value => value < bound

def isAbove (bound : Int) : Number → Bool
  | .nan => false
  | .infinite negative => !negative
  | .finite value => (bound : Rat) < value

def hostProblems : Value → List Problem
  | .string text => if text.isEmpty then [.emptyText] else []
  | value => [.kind .string value.kind]

/-- All problems of a number are reported: that it is no integer, and that it is out of range. -/
def portProblems : Value → List Problem
  | .number .nan => [.kind .number .nan]
  | .number value =>
    (if value.isInteger then [] else [.kind .integer .fractional]) ++
    (if isBelow 0 value then [.belowRange] else []) ++
    (if isAbove greatestPort value then [.aboveRange] else [])
  | value => [.kind .number value.kind]

def fieldNames : List String := ["host", "port", "webPort"]

def fieldProblems (name : String) (value : Value) : List Problem :=
  if name = "host" then hostProblems value else portProblems value

def fieldIssues (name : String) (value : Value) : List Issue :=
  (fieldProblems name value).map fun problem => { field := some name, problem }

def notAnObject (value : Value) : Issue :=
  { field := none, problem := .kind .object value.kind }

def issues (value : Value) : List Issue :=
  match value with
  | .object _ => fieldNames.flatMap fun name => fieldIssues name (value.field name)
  | _ => [notAnObject value]

def optionalIssues (name : String) : Value → List Issue
  | .absent => []
  | present => fieldIssues name present

def unknownNames (fields : Json.Fields) : List Text :=
  (Json.Fields.names fields).filter fun name => !(fieldNames.map Text.ofString).contains name

def settingsIssues (value : Value) : List Issue :=
  match value with
  | .object fields =>
    let known := fieldNames.flatMap fun name => optionalIssues name (value.field name)
    let unknown := unknownNames fields
    known ++
      (if unknown.isEmpty then [] else [{ field := none, problem := .unknownFields unknown }])
  | _ => [notAnObject value]

def issueMessage (issue : Issue) : Text :=
  "Invalid " ++ issue.field.getD "" ++ ": " ++ issue.problem.message

/-- The messages about a value that should be a configuration; none for one that is. -/
def validate (value : Value) : List Text :=
  (issues value).map issueMessage

structure Verdict where
  valid : Bool
  errors : List Text
deriving DecidableEq, Repr

def verdict (value : Value) : Verdict :=
  match issues value with
  | [] => { valid := true, errors := [] }
  | _ => { valid := false, errors := validate value }

end NodeConsole.Config

namespace NodeConsole.Settings

open Json (Value)

def text? : Value → Option Text
  | .string text => some text
  | _ => none

def integer? : Value → Option Int
  | .number value => value.toInt?
  | _ => none

def ofValue (value : Value) : Except (List Config.Issue) Settings :=
  match Config.settingsIssues value with
  | [] => .ok {
      host := text? (value.field "host")
      port := integer? (value.field "port")
      webPort := integer? (value.field "webPort") }
  | issues => .error issues

end NodeConsole.Settings
