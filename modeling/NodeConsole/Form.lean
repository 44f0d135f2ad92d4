import NodeConsole.Text.Percent

/-!
URL-encoded forms: pairs joined by ampersands, a name and a value joined by the first equals sign,
a space written as a plus sign and other characters as percent escapes.
-/

namespace NodeConsole

structure Form where
  pairs : List (String × String)
deriving DecidableEq, Repr, Inhabited

namespace Form

/-- The value of the first pair with this name. -/
def get? (form : Form) (name : String) : Option String :=
  (form.pairs.find? fun pair => pair.1 = name).map (·.2)

/-- Whether a part has an escape. Plus signs are passed over in looking for one. -/
def hasEscape (part : List Char) : Bool :=
  (Percent.pieces (part.filter (· ≠ '+'))).any Percent.Piece.isByte

/-- The text of a part of which every percent sign starts an escape and whose escapes spell
characters. -/
def unescape? (part : List Char) : Option (List Char) :=
  let pieces := Percent.pieces part
  if pieces.contains (.char '%') then none
  else Utf8.decode? (pieces.flatMap Percent.Piece.bytes)

/-- The text of any part with an escape. Where `unescape?` has none, the part is read as bytes:
an escape gives its byte, and any other code unit its low eight bits. -/
def unescape (part : List Char) : List Char :=
  match unescape? part with
  | some text => text
  | none => Utf8.decodeLossy ((Percent.pieces part).flatMap Percent.Piece.lowBytes)

def decodePart (part : List Char) : String :=
  let spaced := part.map fun char => if char = '+' then ' ' else char
  String.ofList (if hasEscape part then unescape spaced else spaced)

def decodePair (text : List Char) : String × String :=
  let (name, rest) := text.span (· ≠ '=')
  (decodePart name, decodePart (rest.drop 1))

/-- Reads a form. One question mark in front is passed over, and so is a pair without text. -/
def ofChars (text : List Char) : Form :=
  let body := match text with
    | '?' :: rest => rest
    | _ => text
  ⟨((body.splitOn '&').filter fun part => !part.isEmpty).map decodePair⟩

def ofString (text : String) : Form :=
  ofChars text.toList

def ofBytes (body : List UInt8) : Form :=
  ofChars (Utf8.decodeLossy body)

end Form

end NodeConsole
