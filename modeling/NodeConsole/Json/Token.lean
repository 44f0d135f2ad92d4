import NodeConsole.Json.Value
import NodeConsole.Number.Numeral

/-!
The tokens of a JSON text. Between tokens stand spaces, tabs and line ends only; a string holds no
control character, and a numeral starts neither with a plus sign nor with a spare zero.
-/

namespace NodeConsole.Json

inductive Token where
  | openBracket
  | closeBracket
  | openBrace
  | closeBrace
  | comma
  | colon
  | string (text : Text)
  | literal (value : Value)

namespace Token

def isSpace (char : Char) : Bool :=
  char = ' ' || char = '\t' || char = '\n' || char = '\r'

def hexDigits? (digits : List Char) : Option UInt16 :=
  if digits.all (fun digit => (digitValue? 16 digit).isSome) then
    some (digitsValue 16 digits).toUInt16
  else none

def escaped? : Char → Option UInt16
  | '"' => some 0x22
  | '\\' => some 0x5C
  | '/' => some 0x2F
  | 'b' => some 0x08
  | 'f' => some 0x0C
  | 'n' => some 0x0A
  | 'r' => some 0x0D
  | 't' => some 0x09
  | _ => none

/-- Reads a string behind its opening quote; `done` holds the units read, last first. -/
def readString? (done : List UInt16) : List Char → Option (Text × List Char)
  | [] => none
  | '"' :: rest => some (⟨done.reverse⟩, rest)
  | '\\' :: 'u' :: a :: b :: c :: d :: rest =>
    match hexDigits? [a, b, c, d] with
    | some unit => readString? (unit :: done) rest
    | none => none
  | '\\' :: char :: rest =>
    match escaped? char with
    | some unit => readString? (unit :: done) rest
    | none => none
  | char :: rest =>
    if char.toNat < 0x20 ∨ char = '\\' then none
    else readString? ((Text.ofChar char).reverse ++ done) rest

/-- The digits before the point: a lone zero, or digits that do not start with one. -/
def readWhole? (text : List Char) : Option (List Char × List Char) :=
  match text.span isDigit with
  | ([], _) => none
  | (whole, rest) => if whole.head? = some '0' ∧ whole ≠ ['0'] then none else some (whole, rest)

def readFraction? : List Char → Option (List Char × List Char)
  | '.' :: rest =>
    match rest.span isDigit with
    | ([], _) => none
    | found => some found
  | rest => some ([], rest)

def readNumeral? (text : List Char) : Option (Decimal × List Char) := do
  let (negative, unsigned) := match text with
    | '-' :: rest => (true, rest)
    | rest => (false, rest)
  let (whole, afterWhole) ← readWhole? unsigned
  let (fraction, afterFraction) ← readFraction? afterWhole
  let (exponent, rest) ← Decimal.readExponent? afterFraction
  pure ({ negative, whole, fraction, exponent }, rest)

/-- The token at the start of a text that does not start with a space. -/
def read? : List Char → Option (Token × List Char)
  | [] => none
  | '[' :: rest => some (.openBracket, rest)
  | ']' :: rest => some (.closeBracket, rest)
  | '\x7b' :: rest => some (.openBrace, rest)
  | '\x7d' :: rest => some (.closeBrace, rest)
  | ',' :: rest => some (.comma, rest)
  | ':' :: rest => some (.colon, rest)
  | '"' :: rest => (readString? [] rest).map fun (text, after) => (.string text, after)
  | 'n' :: 'u' :: 'l' :: 'l' :: rest => some (.literal .null, rest)
  | 't' :: 'r' :: 'u' :: 'e' :: rest => some (.literal (.bool true), rest)
  | 'f' :: 'a' :: 'l' :: 's' :: 'e' :: rest => some (.literal (.bool false), rest)
  | text =>
    (readNumeral? text).map fun (decimal, after) => (.literal (.number decimal.toNumber), after)

/-- All tokens of a text, with `fuel` above its length; `done` holds those read, last first. -/
def readAll? : Nat → List Token → List Char → Option (List Token)
  | 0, _, _ => none
  | fuel + 1, done, text =>
    match text.dropWhile isSpace with
    | [] => some done.reverse
    | more =>
      match read? more with
      | some (token, rest) => readAll? fuel (token :: done) rest
      | none => none

def ofText? (text : List Char) : Option (List Token) :=
  readAll? (text.length + 1) [] text

end Token

end NodeConsole.Json
