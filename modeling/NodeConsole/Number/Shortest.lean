import NodeConsole.Number.Binary64

/-!
The text of a number: the fewest decimal digits that lie nearer to it than to any other number of
the format and, of those, the ones nearest to it. Numbers from 10^-6 up to 10^21 are written
positionally, all others with an exponent.
-/

namespace NodeConsole.Shortest

/-- A run of decimal digits and the power of ten that its last digit counts. -/
structure Digits where
  count : Nat
  place : Int
deriving DecidableEq, Repr

namespace Digits

def value (digits : Digits) : Rat :=
  (digits.count : Rat) * scale 10 digits.place

def trimmed : Nat → Digits → Digits
  | 0, digits => digits
  | fuel + 1, digits =>
    if digits.count ≠ 0 ∧ digits.count % 10 = 0 then
      trimmed fuel { count := digits.count / 10, place := digits.place + 1 }
    else digits

end Digits

/-- The numbers that round to a given positive number: a closed interval when its significand is
even, an open one otherwise. The step below a power of two is half the step above it. -/
structure Neighbourhood where
  low : Rat
  high : Rat
  closed : Bool

def neighbourhood (value : Rat) : Neighbourhood :=
  let place := Binary64.lastPlace value
  let count := Binary64.significand value
  let below : Rat := if count = Nat.pow 2 52 ∧ -1074 < place then 1 / 4 else 1 / 2
  { low := ((count : Rat) - below) * scale 2 place
    high := ((count : Rat) + 1 / 2) * scale 2 place
    closed := count % 2 = 0 }

def Neighbourhood.contains (around : Neighbourhood) (value : Rat) : Bool :=
  if around.closed then around.low ≤ value && value ≤ around.high
  else around.low < value && value < around.high

/-- How often a number below one must be multiplied by ten to reach one. -/
def zerosBelowOne : Nat → Rat → Nat
  | 0, _ => 0
  | fuel + 1, value => if 1 ≤ value then 0 else zerosBelowOne fuel (value * 10) + 1

def leadingPlace (value : Rat) : Int :=
  if 1 ≤ value then ((toString value.floor.toNat).length : Int) - 1
  else -(zerosBelowOne 400 value : Int)

/-- The nearer of two points that enclose a value; if they are equally near, the even one. -/
def nearer (value : Rat) (below above : Digits) : Digits :=
  let down := value - below.value
  let up := above.value - value
  if down < up then below
  else if up < down then above
  else if below.count % 2 = 0 then below
  else above

/-- The nearest point in the neighbourhood on the grid of so many digits. -/
def onGrid? (value : Rat) (around : Neighbourhood) (digitCount : Nat) : Option Digits :=
  let place := leadingPlace value + 1 - digitCount
  let below : Digits := ⟨(value / scale 10 place).floor.toNat, place⟩
  let above : Digits := ⟨below.count + 1, place⟩
  match around.contains below.value, around.contains above.value with
  | true, true => some (nearer value below above)
  | true, false => some below
  | false, true => some above
  | false, false => none

/-- The shortest digits of a positive number; seventeen are always enough. -/
def digits (value : Rat) : Digits :=
  let around := neighbourhood value
  let found := (List.range 17).findSome? fun fewer => onGrid? value around (fewer + 1)
  (found.getD ⟨value.floor.toNat, 0⟩).trimmed 400

/-- The text of digits `d₁…dₖ` with the point before place `point`. -/
def layOut (text : List Char) (point : Int) : List Char :=
  let size : Int := text.length
  if size ≤ point ∧ point ≤ 21 then text ++ List.replicate (point - size).toNat '0'
  else if 0 < point ∧ point ≤ 21 then text.take point.toNat ++ '.' :: text.drop point.toNat
  else if -6 < point ∧ point ≤ 0 then '0' :: '.' :: List.replicate (-point).toNat '0' ++ text
  else
    let exponent := point - 1
    let sign := if exponent < 0 then '-' else '+'
    let tail := 'e' :: sign :: (toString exponent.natAbs).toList
    match text with
    | [digit] => digit :: tail
    | digit :: more => digit :: '.' :: more ++ tail
    | [] => tail

def unsigned (value : Rat) : List Char :=
  if value = 0 then ['0']
  else
    let shortest := digits value
    let text := (toString shortest.count).toList
    layOut text (text.length + shortest.place)

end NodeConsole.Shortest

namespace NodeConsole.Number

def text : Number → String
  | .nan => "NaN"
  | .infinite true => "-Infinity"
  | .infinite false => "Infinity"
  | .finite value =>
    if value < 0 then String.ofList ('-' :: Shortest.unsigned (-value))
    else String.ofList (Shortest.unsigned value)

/-- The text of an integer. Up to 2^53 it has all its digits; beyond, the format does not hold
every integer. -/
def integerText (value : Int) : String :=
  if value.natAbs ≤ Nat.pow 2 53 then toString value else (ofInt value).text

end NodeConsole.Number
