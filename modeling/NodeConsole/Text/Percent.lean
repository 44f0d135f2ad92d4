import NodeConsole.Number.Numeral
import NodeConsole.Text.Basic
import NodeConsole.Text.Utf8

/-!
Percent escapes: a percent sign and two hexadecimal digits that stand for one byte. A percent sign
without two such digits behind it stands for itself.
-/

namespace NodeConsole.Percent

/-- A character of an escaped text, or the byte that an escape names. -/
inductive Piece where
  | char (value : Char)
  | byte (value : UInt8)
deriving DecidableEq, Repr

namespace Piece

def isByte : Piece → Bool
  | .byte _ => true
  | .char _ => false

/-- The bytes of a piece, a character being written in UTF-8. -/
def bytes : Piece → List UInt8
  | .char value => String.utf8EncodeChar value
  | .byte value => [value]

/-- The bytes of a piece, each code unit of a character giving only its low eight bits. -/
def lowBytes : Piece → List UInt8
  | .char value => (Text.ofChar value).map (·.toUInt8)
  | .byte value => [value]

end Piece

def escape? (high low : Char) : Option UInt8 :=
  match digitValue? 16 high, digitValue? 16 low with
  | some upper, some lower => some (upper * 16 + lower).toUInt8
  | _, _ => none

/-- Takes an escaped text apart; `done` holds the pieces found, last first. -/
def piecesFrom (done : List Piece) : List Char → List Piece
  | [] => done.reverse
  | '%' :: high :: low :: rest =>
    match escape? high low with
    | some byte => piecesFrom (.byte byte :: done) rest
    | none => piecesFrom (.char '%' :: done) (high :: low :: rest)
  | char :: rest => piecesFrom (.char char :: done) rest

def pieces (text : List Char) : List Piece :=
  piecesFrom [] text

def decode (text : List Char) : List UInt8 :=
  (pieces text).flatMap Piece.bytes

def upperHexDigit (value : Nat) : Char :=
  if value < 10 then Char.ofNat ('0'.toNat + value) else Char.ofNat ('A'.toNat + value - 10)

def encodeByte (byte : UInt8) : List Char :=
  ['%', upperHexDigit (byte.toNat / 16), upperHexDigit (byte.toNat % 16)]

/-- Escapes the characters of a set, byte by byte, and leaves the others. -/
def encode (set : Char → Bool) (text : List Char) : List Char :=
  text.flatMap fun char =>
    if set char then (String.utf8EncodeChar char).flatMap encodeByte else [char]

end NodeConsole.Percent
