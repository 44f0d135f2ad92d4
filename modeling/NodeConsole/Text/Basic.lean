/-!
Text as a sequence of UTF-16 code units. Texts that come from a JSON document are such sequences:
an escape there may name one half of a surrogate pair alone, which no `Char` can hold.
-/

namespace NodeConsole

structure Text where
  units : List UInt16
deriving DecidableEq, Repr, Inhabited

namespace Text

def ofChar (char : Char) : List UInt16 :=
  if char.toNat < 0x10000 then [char.toNat.toUInt16]
  else
    let above := char.toNat - 0x10000
    [(0xD800 + above / 0x400).toUInt16, (0xDC00 + above % 0x400).toUInt16]

def ofChars (chars : List Char) : Text :=
  ⟨chars.flatMap ofChar⟩

def ofString (text : String) : Text :=
  ofChars text.toList

instance : Coe String Text := ⟨ofString⟩

def isHigh (unit : UInt16) : Bool :=
  0xD800 ≤ unit && unit ≤ 0xDBFF

def isLow (unit : UInt16) : Bool :=
  0xDC00 ≤ unit && unit ≤ 0xDFFF

/-- A character, or half of a surrogate pair that stands alone. -/
inductive Item where
  | char (value : Char)
  | half (unit : UInt16)
deriving DecidableEq, Repr

def single (unit : UInt16) : Item :=
  if isHigh unit || isLow unit then .half unit else .char (Char.ofNat unit.toNat)

def joined (high low : UInt16) : Char :=
  Char.ofNat (0x10000 + (high.toNat - 0xD800) * 0x400 + (low.toNat - 0xDC00))

/-- Reads units in order; `done` holds the items read, last first. -/
def itemsFrom (done : List Item) : List UInt16 → List Item
  | [] => done.reverse
  | [unit] => (single unit :: done).reverse
  | unit :: next :: rest =>
    if isHigh unit && isLow next then itemsFrom (.char (joined unit next) :: done) rest
    else itemsFrom (single unit :: done) (next :: rest)

def items (text : Text) : List Item :=
  itemsFrom [] text.units

def Item.units : Item → List UInt16
  | .char value => ofChar value
  | .half unit => [unit]

def ofItems (items : List Item) : Text :=
  ⟨items.flatMap Item.units⟩

/-- The text as characters, with U+FFFD for a half that stands alone. -/
def toChars (text : Text) : List Char :=
  text.items.map fun
    | .char value => value
    | .half _ => Char.ofNat 0xFFFD

def toString (text : Text) : String :=
  String.ofList text.toChars

instance : ToString Text := ⟨toString⟩

/-- The text with U+FFFD in the place of every half that stands alone. -/
def repair (text : Text) : Text :=
  ofChars text.toChars

def append (left right : Text) : Text :=
  ⟨left.units ++ right.units⟩

instance : Append Text := ⟨append⟩

def isEmpty (text : Text) : Bool :=
  text.units.isEmpty

def concat (texts : List Text) : Text :=
  ⟨texts.flatMap (·.units)⟩

def join (separator : Text) (texts : List Text) : Text :=
  ⟨separator.units.intercalate (texts.map (·.units))⟩

def splitOn (text : Text) (unit : UInt16) : List Text :=
  (text.units.splitOn unit).map Text.mk

end Text

end NodeConsole
