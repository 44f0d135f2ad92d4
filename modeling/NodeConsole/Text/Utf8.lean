import NodeConsole.Text.Basic

/-!
UTF-8: the bytes of a text, and bytes read as text. Reading never fails: every longest beginning
of a character that its successor does not continue is reported once, as `none`, so that a caller
may either reject the bytes or put a replacement character there.
-/

namespace NodeConsole.Utf8

def encode (text : List Char) : List UInt8 :=
  text.flatMap String.utf8EncodeChar

/-- The bytes of an item of a text. Half of a surrogate pair is written by the rule for characters,
though it is none. -/
def encodeItem : Text.Item → List UInt8
  | .char value => String.utf8EncodeChar value
  | .half unit =>
    let code := unit.toNat
    [0xE0 + code / 0x1000, 0x80 + code / 0x40 % 0x40, 0x80 + code % 0x40].map Nat.toUInt8

def encodeItems (items : List Text.Item) : List UInt8 :=
  items.flatMap encodeItem

/-- A character of which some bytes have been read: how many it still lacks, the bits so far, and
the range that its next byte must lie in. No character is under way when none is lacking. -/
structure Unfinished where
  lacking : Nat := 0
  bits : Nat := 0
  least : UInt8 := 0x80
  greatest : UInt8 := 0xBF
deriving DecidableEq, Repr

/-- A byte read where a character must start. The ranges after `E0`, `ED`, `F0` and `F4` leave
out spellings that are too long, surrogates and numbers above `10FFFF`. -/
def first (byte : UInt8) : Unfinished × List (Option Char) :=
  if byte < 0x80 then ({}, [some (Char.ofNat byte.toNat)])
  else if byte < 0xC2 then ({}, [none])
  else if byte < 0xE0 then ({ lacking := 1, bits := byte.toNat - 0xC0 }, [])
  else if byte < 0xF0 then
    ({ lacking := 2, bits := byte.toNat - 0xE0
       least := if byte = 0xE0 then 0xA0 else 0x80
       greatest := if byte = 0xED then 0x9F else 0xBF }, [])
  else if byte < 0xF5 then
    ({ lacking := 3, bits := byte.toNat - 0xF0
       least := if byte = 0xF0 then 0x90 else 0x80
       greatest := if byte = 0xF4 then 0x8F else 0xBF }, [])
  else ({}, [none])

/-- One more byte: what is under way after it, and what it has brought to an end. -/
def step (state : Unfinished) (byte : UInt8) : Unfinished × List (Option Char) :=
  if state.lacking = 0 then first byte
  else if state.least ≤ byte ∧ byte ≤ state.greatest then
    let bits := state.bits * 64 + (byte.toNat - 0x80)
    if state.lacking = 1 then ({}, [some (Char.ofNat bits)])
    else ({ lacking := state.lacking - 1, bits := bits }, [])
  else ((first byte).1, none :: (first byte).2)

/-- What the end of the bytes makes of a character that is under way. -/
def finish (state : Unfinished) : List (Option Char) :=
  if state.lacking = 0 then [] else [none]

/-- Reads on from `state`; `done` holds what has been read, last first. -/
def decodeFrom (state : Unfinished) (done : List (Option Char)) : List UInt8 → List (Option Char)
  | [] => (finish state ++ done).reverse
  | byte :: rest => decodeFrom (step state byte).1 ((step state byte).2.reverse ++ done) rest

def decode (bytes : List UInt8) : List (Option Char) :=
  decodeFrom {} [] bytes

def decode? (bytes : List UInt8) : Option (List Char) :=
  (decode bytes).mapM id

/-- The text of any bytes, with U+FFFD for each part that is no character. -/
def decodeLossy (bytes : List UInt8) : List Char :=
  (decode bytes).map fun item => item.getD (Char.ofNat 0xFFFD)

def ofString (text : String) : List UInt8 :=
  encode text.toList

def toStringLossy (bytes : List UInt8) : String :=
  String.ofList (decodeLossy bytes)

end NodeConsole.Utf8
