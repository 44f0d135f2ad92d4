import NodeConsole.Json.Value

/-!
Writing a value as JSON: on one line, or with every item and field on a line of its own. A number
that is not finite is written `null`; so is an absent item, while an absent field is left out.
-/

namespace NodeConsole.Json

def hexDigit (value : Nat) : Char :=
  if value < 10 then Char.ofNat ('0'.toNat + value) else Char.ofNat ('a'.toNat + value - 10)

def unitEscape (unit : Nat) : List Char :=
  ['\\', 'u', hexDigit (unit / 0x1000 % 16), hexDigit (unit / 0x100 % 16),
    hexDigit (unit / 0x10 % 16), hexDigit (unit % 16)]

/-- A character of a string. Quotes, backslashes, control characters and halves of surrogate
pairs are escaped. -/
def itemText : Text.Item → List Char
  | .half unit => unitEscape unit.toNat
  | .char '"' => ['\\', '"']
  | .char '\\' => ['\\', '\\']
  | .char '\x08' => ['\\', 'b']
  | .char '\x0C' => ['\\', 'f']
  | .char '\n' => ['\\', 'n']
  | .char '\r' => ['\\', 'r']
  | .char '\t' => ['\\', 't']
  | .char char => if char.toNat < 0x20 then unitEscape char.toNat else [char]

def stringText (text : Text) : String :=
  String.ofList ('"' :: text.items.flatMap itemText ++ ['"'])

def numberText : Number → String
  | .finite value => (Number.finite value).text
  | _ => "null"

mutual

def Value.compact : Value → String
  | .absent => "null"
  | .null => "null"
  | .bool flag => if flag then "true" else "false"
  | .number value => numberText value
  | .string text => stringText text
  | .array items => "[" ++ ",".intercalate (compactItems [] items) ++ "]"
  | .object fields => "\x7b" ++ ",".intercalate (compactFields [] fields) ++ "\x7d"

def compactItems (done : List String) : List Value → List String
  | [] => done.reverse
  | item :: rest => compactItems (item.compact :: done) rest

def compactFields (done : List String) : List (Text × Value) → List String
  | [] => done.reverse
  | (_, .absent) :: rest => compactFields done rest
  | (name, value) :: rest => compactFields ((stringText name ++ ":" ++ value.compact) :: done) rest

end

/-- Parts between brackets, one to a line, two spaces further in than the brackets. -/
def bracketed (left right : String) (margin : Nat) (parts : List String) : String :=
  if parts.isEmpty then left ++ right
  else
    let newLine (width : Nat) := "\n" ++ String.ofList (List.replicate width ' ')
    let inner := (parts.map fun part => newLine (margin + 2) ++ part)
    left ++ ",".intercalate inner ++ newLine margin ++ right

mutual

def Value.indentedFrom (margin : Nat) : Value → String
  | .array items => bracketed "[" "]" margin (indentedItems (margin + 2) [] items)
  | .object fields => bracketed "\x7b" "\x7d" margin (indentedFields (margin + 2) [] fields)
  | .absent => "null"
  | .null => "null"
  | .bool flag => if flag then "true" else "false"
  | .number value => numberText value
  | .string text => stringText text

def indentedItems (margin : Nat) (done : List String) : List Value → List String
  | [] => done.reverse
  | item :: rest => indentedItems margin (item.indentedFrom margin :: done) rest

def indentedFields (margin : Nat) (done : List String) : List (Text × Value) → List String
  | [] => done.reverse
  | (_, .absent) :: rest => indentedFields margin done rest
  | (name, value) :: rest =>
    indentedFields margin
      ((stringText name ++ ": " ++ value.indentedFrom margin) :: done) rest

end

def Value.indented (value : Value) : String :=
  value.indentedFrom 0

end NodeConsole.Json
