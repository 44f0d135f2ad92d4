import NodeConsole.Json.Token

/-!
Reading a JSON document: one value and nothing after it. Of fields with one name the last counts.
-/

namespace NodeConsole.Json

mutual

/-- The value at the start of the tokens, with `fuel` above their number. -/
def readValue? : Nat → List Token → Option (Value × List Token)
  | 0, _ => none
  | _ + 1, .string text :: rest => some (.string text, rest)
  | _ + 1, .literal value :: rest => some (value, rest)
  | _ + 1, .openBracket :: .closeBracket :: rest => some (.array [], rest)
  | fuel + 1, .openBracket :: rest => readItems? fuel [] rest
  | _ + 1, .openBrace :: .closeBrace :: rest => some (.object [], rest)
  | fuel + 1, .openBrace :: rest => readFields? fuel [] rest
  | _, _ => none

/-- The rest of an array that has at least one more item; `done` holds the items, last first. -/
def readItems? : Nat → List Value → List Token → Option (Value × List Token)
  | 0, _, _ => none
  | fuel + 1, done, tokens =>
    match readValue? fuel tokens with
    | some (item, .comma :: rest) => readItems? fuel (item :: done) rest
    | some (item, .closeBracket :: rest) => some (.array (item :: done).reverse, rest)
    | _ => none

def readFields? : Nat → Fields → List Token → Option (Value × List Token)
  | fuel + 1, done, .string name :: .colon :: tokens =>
    match readValue? fuel tokens with
    | some (value, .comma :: rest) => readFields? fuel (done.put name value) rest
    | some (value, .closeBrace :: rest) => some (.object (done.put name value), rest)
    | _ => none
  | _, _, _ => none

end

def Value.ofTokens? (tokens : List Token) : Option Value :=
  match readValue? (tokens.length + 1) tokens with
  | some (value, []) => some value
  | _ => none

def Value.ofText? (text : String) : Option Value := do
  let tokens ← Token.ofText? text.toList
  Value.ofTokens? tokens

end NodeConsole.Json
