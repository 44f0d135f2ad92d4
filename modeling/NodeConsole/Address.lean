import NodeConsole.Number.Numeral

/-!
Addresses on a network, as they are written: four decimal numbers between dots, or eight 16-bit
pieces in hexadecimal between colons.
-/

namespace NodeConsole.Address

/-- A decimal number of one byte, without zeros in front. -/
def byte? (text : List Char) : Option Nat :=
  if !text.isEmpty && text.all isDigit && (text.head? ≠ some '0' || text.length == 1)
      && digitsValue 10 text ≤ 255 then
    some (digitsValue 10 text)
  else none

def bytes? (text : List Char) : Option (List Nat) :=
  ((text.splitOn '.').mapM byte?).filter fun bytes => bytes.length = 4

/-- The two pieces that four numbers make at the end of an address of pieces. -/
def embedded? (text : List Char) : Option (List Nat) :=
  (bytes? text).bind fun
    | [a, b, c, d] => some [a * 256 + b, c * 256 + d]
    | _ => none

def hexPiece? (text : List Char) : Option Nat :=
  if !text.isEmpty && text.length ≤ 4 && text.all fun digit => (digitValue? 16 digit).isSome then
    some (digitsValue 16 text)
  else none

/-- The pieces of one side of an address; only at the end of the whole address may four decimal
numbers stand for two of them. -/
def sidePieces? (isEnd : Bool) (text : List Char) : Option (List Nat) :=
  if text.isEmpty then some []
  else
    let parts := text.splitOn ':'
    let last := parts.getLast?.getD []
    if isEnd && last.contains '.' then do
      let front ← parts.dropLast.mapM hexPiece?
      let back ← embedded? last
      pure (front ++ back)
    else parts.mapM hexPiece?

/-- Splits a text at its first double colon; `done` holds the text before it, last first. -/
def splitAtGap? (done : List Char) : List Char → Option (List Char × List Char)
  | [] => none
  | ':' :: ':' :: rest => some (done.reverse, rest)
  | char :: rest => splitAtGap? (char :: done) rest

/-- The eight pieces of an address. A double colon stands for one zero or more. -/
def pieces? (text : List Char) : Option (List Nat) :=
  match splitAtGap? [] text with
  | none => do
    let pieces ← sidePieces? true text
    if pieces.length = 8 then some pieces else none
  | some (left, right) => do
    let front ← sidePieces? false left
    let back ← sidePieces? true right
    if front.length + back.length ≤ 7 then
      some (front ++ List.replicate (8 - front.length - back.length) 0 ++ back)
    else none

def isZoneChar (char : Char) : Bool :=
  char.isAlphanum || ['-', '.', ':'].contains char

/-- Whether a text has the form of an address. One of pieces may have a zone behind a percent
sign. -/
def isAddress (text : List Char) : Bool :=
  (bytes? text).isSome ||
    match text.span (· ≠ '%') with
    | (pieces, []) => (pieces? pieces).isSome
    | (pieces, _ :: zone) => (pieces? pieces).isSome && !zone.isEmpty && zone.all isZoneChar

def bracketed? (text : List Char) : Option (List Char) :=
  match text with
  | '[' :: rest =>
    match rest.span fun char => char ≠ '[' && char ≠ ']' with
    | (inner, ']' :: _) => some inner
    | _ => none
  | _ => none

/-- The text in front of a port, which is the digits behind the last colon. -/
def beforePort? (text : List Char) : Option (List Char) :=
  match text.reverse.span isDigit with
  | (_ :: _, ':' :: before) => some before.reverse
  | _ => none

/-- Whether a text names a server by its address. A port may follow; behind brackets anything
may. -/
def isServer (text : List Char) : Bool :=
  isAddress text || (bracketed? text).any isAddress || (beforePort? text).any isAddress

end NodeConsole.Address
