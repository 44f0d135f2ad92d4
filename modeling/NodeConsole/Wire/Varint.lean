/-!
Whole numbers on the wire: groups of seven bits, the lowest first, each in a byte whose high bit
says that another follows.
-/

namespace NodeConsole.Wire

def varint (value : Nat) : List UInt8 :=
  if value < 128 then [value.toUInt8]
  else (value % 128 + 128).toUInt8 :: varint (value / 128)
termination_by value
decreasing_by omega

/-- Reads the groups of a 32-bit number, of which so many may still come; `low` holds the bits
read, below `weight`. Five groups that all announce another belong to a number of ten bytes. -/
def readGroups? : Nat → Nat → Nat → List UInt8 → Option (Nat × List UInt8)
  | 0, _, low, bytes =>
    if (bytes.take 5).length = 5 then some (low % Nat.pow 2 32, bytes.drop 5) else none
  | _ + 1, _, _, [] => none
  | groups + 1, weight, low, byte :: rest =>
    let sum := low + byte.toNat % 128 * weight
    if byte < 128 then some (sum % Nat.pow 2 32, rest)
    else readGroups? groups (weight * 128) sum rest

/-- The low 32 bits of the number at the start of the bytes, and what follows the number. -/
def readWord? (bytes : List UInt8) : Option (Nat × List UInt8) :=
  readGroups? 5 1 0 bytes

def skipVarint? (bytes : List UInt8) : Option (List UInt8) :=
  match bytes.dropWhile fun byte => 128 ≤ byte with
  | [] => none
  | _ :: rest => some rest

def skip? (count : Nat) (bytes : List UInt8) : Option (List UInt8) :=
  if (bytes.take count).length = count then some (bytes.drop count) else none

end NodeConsole.Wire
