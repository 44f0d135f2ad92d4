import NodeConsole.Number.Shortest
import NodeConsole.Text.Basic

/-!
The values of a JSON document, with two additions that a document cannot write but a program can
hand over: numbers that are not finite, and `absent`, the value of what is missing.

The fields of an object keep one entry per name. They are listed with the names that are array
indices first, in ascending order, and then the others in the order of their first appearance.
-/

namespace NodeConsole.Json

inductive Value where
  | absent
  | null
  | bool (flag : Bool)
  | number (value : Number)
  | string (text : Text)
  | array (items : List Value)
  | object (fields : List (Text × Value))
deriving Inhabited

inductive Kind where
  | absent
  | null
  | boolean
  | nan
  | number
  | integer
  | fractional
  | string
  | array
  | object
deriving DecidableEq, Repr

def Kind.name : Kind → String
  | .absent => "undefined"
  | .null => "null"
  | .boolean => "boolean"
  | .nan => "nan"
  | .number => "number"
  | .integer => "integer"
  | .fractional => "float"
  | .string => "string"
  | .array => "array"
  | .object => "object"

namespace Value

def kind : Value → Kind
  | .absent => .absent
  | .null => .null
  | .bool _ => .boolean
  | .number .nan => .nan
  | .number _ => .number
  | .string _ => .string
  | .array _ => .array
  | .object _ => .object

def ofString (text : String) : Value :=
  .string (Text.ofString text)

def ofInt (value : Int) : Value :=
  .number (.ofInt value)

end Value

/-- The fields of an object, in the order of their first appearance. -/
abbrev Fields := List (Text × Value)

namespace Fields

/-- Sets a field: in its place if the name is there, at the end if not. -/
def put (name : Text) (value : Value) : Fields → Fields
  | [] => [(name, value)]
  | (other, old) :: rest =>
    if other = name then (name, value) :: rest else (other, old) :: put name value rest

def get (fields : Fields) (name : Text) : Value :=
  ((fields.find? fun field => field.1 = name).map (·.2)).getD .absent

/-- The number that a name spells, if it is an array index: below 2^32 - 1, no zero in front. -/
def index? (name : Text) : Option Nat :=
  let chars := name.toChars
  let value := chars.foldl (fun total char => total * 10 + (char.toNat - '0'.toNat)) 0
  if chars ≠ [] ∧ chars.all (fun char => '0' ≤ char && char ≤ '9')
      ∧ (chars.head? = some '0' → chars = ['0']) ∧ value < 4294967295 then
    some value
  else none

def names (fields : Fields) : List Text :=
  let all := fields.map (·.1)
  let indices := all.filter fun name => (index? name).isSome
  let others := all.filter fun name => (index? name).isNone
  indices.mergeSort (fun left right => (index? left).getD 0 ≤ (index? right).getD 0) ++ others

end Fields

/-- A field of an object; `absent` for every other value. -/
def Value.field (value : Value) (name : String) : Value :=
  match value with
  | .object fields => Fields.get fields (Text.ofString name)
  | _ => .absent

end NodeConsole.Json
