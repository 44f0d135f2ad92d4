import NodeConsole.Number.Binary64
import NodeConsole.Text.Basic

/-!
Numerals: decimal ones with an optional fraction and exponent, whole numbers written in base two,
eight or sixteen, and the word for infinity. A numeral has an exact rational value; the number it
denotes is that value rounded to binary64.
-/

namespace NodeConsole

def isDigit (char : Char) : Bool :=
  '0' ≤ char && char ≤ '9'

def digitValue? (base : Nat) (char : Char) : Option Nat :=
  let value? :=
    if isDigit char then some (char.toNat - '0'.toNat)
    else if 'a' ≤ char ∧ char ≤ 'f' then some (char.toNat - 'a'.toNat + 10)
    else if 'A' ≤ char ∧ char ≤ 'F' then some (char.toNat - 'A'.toNat + 10)
    else none
  value?.filter (· < base)

def digitsValue (base : Nat) (digits : List Char) : Nat :=
  digits.foldl (fun total digit => total * base + (digitValue? base digit).getD 0) 0

structure Decimal where
  negative : Bool := false
  whole : List Char
  fraction : List Char := []
  exponent : Int := 0
deriving DecidableEq, Repr

namespace Decimal

def digits (decimal : Decimal) : Nat :=
  digitsValue 10 (decimal.whole ++ decimal.fraction)

def digitCount (decimal : Decimal) : Nat :=
  decimal.whole.length + decimal.fraction.length

/-- The power of ten that `digits` counts. -/
def place (decimal : Decimal) : Int :=
  decimal.exponent - decimal.fraction.length

def signed (negative : Bool) (value : Rat) : Rat :=
  if negative then -value else value

def value (decimal : Decimal) : Rat :=
  signed decimal.negative ((decimal.digits : Rat) * scale 10 decimal.place)

/-- The value rounded. A value far above or below the range of the format is not computed: it has
no more than `digitCount` digits, so its place alone decides. -/
def toNumber (decimal : Decimal) : Number :=
  if decimal.digits = 0 then .finite 0
  else if 400 < decimal.place then .infinite decimal.negative
  else if decimal.place < -400 - (decimal.digitCount : Int) then .finite 0
  else Binary64.round decimal.value

/-- The exponent at the start of a text, zero where there is none, and what follows it. An `e`
without digits is no exponent but a fault. -/
def readExponent? : List Char → Option (Int × List Char)
  | [] => some (0, [])
  | char :: rest =>
    if char = 'e' ∨ char = 'E' then
      let (negative, unsigned) := match rest with
        | '-' :: more => (true, more)
        | '+' :: more => (false, more)
        | more => (false, more)
      match unsigned.span isDigit with
      | ([], _) => none
      | (digits, after) =>
        let size : Int := digitsValue 10 digits
        some (if negative then -size else size, after)
    else some (0, char :: rest)

end Decimal

/-- A character that may surround a numeral: a space separator of Unicode, a line end or the byte
order mark. -/
def isBlank (char : Char) : Bool :=
  let code := char.toNat
  (0x09 ≤ code && code ≤ 0x0D) || code == 0x20 || code == 0xA0 || code == 0x1680 ||
    (0x2000 ≤ code && code ≤ 0x200A) || code == 0x2028 || code == 0x2029 || code == 0x202F ||
    code == 0x205F || code == 0x3000 || code == 0xFEFF

def dropBlanks (text : List Char) : List Char :=
  text.dropWhile isBlank

def trimBlanks (text : List Char) : List Char :=
  (dropBlanks (dropBlanks text).reverse).reverse

inductive Numeral where
  | decimal (numeral : Decimal)
  | based (base : Nat) (digits : List Char)
  | infinity (negative : Bool)
deriving DecidableEq, Repr

namespace Numeral

def toNumber : Numeral → Number
  | .decimal numeral => numeral.toNumber
  | .based base digits => Binary64.round (digitsValue base digits : Nat)
  | .infinity negative => .infinite negative

/-- A decimal numeral without its sign: digits before the point, after it, or both. -/
def readUnsigned? (negative : Bool) (text : List Char) : Option Numeral :=
  if text = "Infinity".toList then some (.infinity negative)
  else
    let (whole, afterWhole) := text.span isDigit
    let (fraction, afterFraction) := match afterWhole with
      | '.' :: more => more.span isDigit
      | more => ([], more)
    if whole.isEmpty && fraction.isEmpty then none
    else match Decimal.readExponent? afterFraction with
      | some (exponent, []) => some (.decimal { negative, whole, fraction, exponent })
      | _ => none

def readBased? (base : Nat) (digits : List Char) : Option Numeral :=
  if digits ≠ [] ∧ digits.all (fun digit => (digitValue? base digit).isSome) then
    some (.based base digits)
  else none

/-- The numeral that a text is. Only decimal ones and infinity take a sign. -/
def read? : List Char → Option Numeral
  | '0' :: 'x' :: digits => readBased? 16 digits
  | '0' :: 'X' :: digits => readBased? 16 digits
  | '0' :: 'o' :: digits => readBased? 8 digits
  | '0' :: 'O' :: digits => readBased? 8 digits
  | '0' :: 'b' :: digits => readBased? 2 digits
  | '0' :: 'B' :: digits => readBased? 2 digits
  | '-' :: rest => readUnsigned? true rest
  | '+' :: rest => readUnsigned? false rest
  | text => readUnsigned? false text

def ofText? (text : Text) : Option Numeral :=
  read? (trimBlanks text.toChars)

end Numeral

end NodeConsole
