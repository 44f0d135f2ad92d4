import NodeConsole.Number.Numeral

/-!
Punycode, which writes the characters of a label in ASCII: first the ASCII characters of the label
and a hyphen, then the distances between the insertions of the others. A distance is written in
base 36, least digit first, with a threshold for each digit that tells the last one; the thresholds
depend on a bias, which follows the distances. All numbers stay below 2^31.
-/

namespace NodeConsole.Url.Punycode

def greatest : Nat := 0x7FFFFFFF

def threshold (base bias : Nat) : Nat :=
  if base ≤ bias then 1 else if bias + 26 ≤ base then 26 else base - bias

def digit? (char : Char) : Option Nat :=
  if 'a' ≤ char ∧ char ≤ 'z' then some (char.toNat - 'a'.toNat)
  else if 'A' ≤ char ∧ char ≤ 'Z' then some (char.toNat - 'A'.toNat)
  else if isDigit char then some (char.toNat - '0'.toNat + 26)
  else none

/-- Adds the distance at the start of the text to `total`, its first digit counting `weight`. -/
def addDistance? (bias : Nat) : Nat → Nat → Nat → List Char → Option (Nat × List Char)
  | _, _, _, [] => none
  | base, weight, total, char :: rest =>
    match digit? char with
    | none => none
    | some digit =>
      if (greatest - total) / weight < digit then none
      else
        let sum := total + digit * weight
        let limit := threshold base bias
        if digit < limit then some (sum, rest)
        else if greatest / (36 - limit) < weight then none
        else addDistance? bias (base + 36) (weight * (36 - limit)) sum rest

def scale (offset delta : Nat) : Nat :=
  if 455 < delta then scale (offset + 36) (delta / 35)
  else offset + 36 * delta / (delta + 38)
termination_by delta
decreasing_by omega

/-- The bias after a distance, the length of the label being `count` with its insertion. -/
def nextBias (distance count : Nat) (isFirst : Bool) : Nat :=
  let damped := if isFirst then distance / 700 else distance / 2
  scale 0 (damped + damped / count)

/-- Makes the insertions that the digits tell, with `fuel` above their number. The next one
inserts `point` or a greater code point, and `point` itself only at `place` or behind it. -/
def insert? : Nat → Nat → Nat → Nat → List Nat → List Char → Option (List Nat)
  | 0, _, _, _, _, _ => none
  | _ + 1, _, _, _, label, [] => some label
  | fuel + 1, point, place, bias, label, digits =>
    match addDistance? bias 36 1 place digits with
    | none => none
    | some (reached, rest) =>
      let count := label.length + 1
      let next := point + reached / count
      let found := reached % count
      if greatest < next then none
      else
        insert? fuel next (found + 1) (nextBias (reached - place) count (place == 0))
          (label.take found ++ next :: label.drop found) rest

def decode? (text : List Char) : Option (List Nat) :=
  let (lastDigits, lastBasic) := text.reverse.span (· ≠ '-')
  insert? (text.length + 1) 0x80 0 72 ((lastBasic.drop 1).reverse.map (·.toNat)) lastDigits.reverse

end NodeConsole.Url.Punycode
