/-!
Numbers of the binary64 format, held as exact rationals. `Binary64.round` takes a rational to the
nearest number of the format, a tie going to the even significand; beyond the largest number it
gives an infinity. The sign of a zero is not kept.
-/

namespace NodeConsole

inductive Number where
  | nan
  | infinite (negative : Bool)
  | finite (value : Rat)
deriving DecidableEq, Repr, Inhabited

namespace Number

def isInteger : Number → Bool
  | .finite value => value.den == 1
  | _ => false

def toInt? : Number → Option Int
  | .finite value => if value.den = 1 then some value.num else none
  | _ => none

def ofInt (value : Int) : Number :=
  .finite value

end Number

/-- An integer power with an exponent of either sign. -/
def scale (base : Nat) (exponent : Int) : Rat :=
  if 0 ≤ exponent then (base.pow exponent.toNat : Rat)
  else mkRat 1 (base.pow (-exponent).toNat)

namespace Binary64

/-- The integer nearest to a quotient, a tie going to the even one. -/
def roundQuotient (numerator denominator : Nat) : Nat :=
  let quotient := numerator / denominator
  let twice := 2 * (numerator % denominator)
  if twice < denominator then quotient
  else if denominator < twice then quotient + 1
  else if quotient % 2 = 0 then quotient
  else quotient + 1

/-- The exponent of the last of the 53 places that a number of this size has; the least is that
of the subnormal numbers. -/
def lastPlace (value : Rat) : Int :=
  let guess : Int := (value.num.natAbs.log2 : Int) - (value.den.log2 : Int)
  let leading := if scale 2 guess ≤ value.abs then guess else guess - 1
  max (leading - 52) (-1074)

/-- How many units of the last place a value has, to the nearest. -/
def significand (value : Rat) : Nat :=
  let place := lastPlace value
  if 0 ≤ place then roundQuotient value.num.natAbs (value.den * Nat.pow 2 place.toNat)
  else roundQuotient (value.num.natAbs * Nat.pow 2 (-place).toNat) value.den

def round (value : Rat) : Number :=
  let magnitude : Rat := (significand value : Rat) * scale 2 (lastPlace value)
  if scale 2 1024 ≤ magnitude then .infinite (decide (value < 0))
  else if value < 0 then .finite (-magnitude)
  else .finite magnitude

end Binary64

end NodeConsole
