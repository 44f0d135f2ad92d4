import NodeConsole.Unicode.Table

/-!
How the letters of cursive scripts join: to the letter in front, to the one behind, or to both.
Letters of the Arabic, Syriac, Mandaic, Mongolian and Phags-pa scripts are known, not all of them;
others join to none. Behind a virama, the sign that takes the vowel from a consonant, a joiner tells
how consonants are drawn.
-/

namespace NodeConsole.Unicode

inductive Joining where
  | toNext
  | toPrevious
  | toBoth
  | toNone
deriving DecidableEq, Repr

namespace Joining

def ofMark : List Char → Joining
  | ['l'] => .toNext
  | ['r'] => .toPrevious
  | ['d'] => .toBoth
  | _ => .toNone

def rows : List String :=
  [
    "1568u d u 4r d r d r 5d 4r 13d u 7d r 2d 35u 2d u 3r 5u 15d 18r 38d r 2d 9r d r d r 2d 2r u",
    "r 24u 2r 10u 3d 2u d 16u r u 3d 5r 4d r 9d r d r d r 2d r 29u r 11d 3r 11d 233u 4d r d 74u d",
    "u 8d 3r 3930u d 24u 88d 15u 34d u 6d 36752u 50d l 1070989u"]

def table : Table Joining :=
  Table.read ofMark rows

end Joining

def joining (code : Nat) : Joining :=
  (Joining.table.find? code).getD .toNone

def viramas : List Nat :=
  [0x094D, 0x09CD, 0x0A4D, 0x0ACD, 0x0B4D, 0x0BCD, 0x0C4D, 0x0CCD, 0x0D3B, 0x0D3C, 0x0D4D,
    0x0DCA, 0x0E3A, 0x0EBA, 0x0F84, 0x1039, 0x103A, 0x1714, 0x1734, 0x17D2, 0x1A60, 0x1B44,
    0x1BAA, 0x1BAB, 0x1BF2, 0x1BF3, 0x2D7F, 0xA806, 0xA82C, 0xA8C4, 0xA953, 0xA9C0, 0xAAF6,
    0xABED, 0x10A3F, 0x11046, 0x1107F, 0x110B9, 0x11133, 0x11134, 0x111C0, 0x11235, 0x112EA,
    0x1134D, 0x11442, 0x114C2, 0x115BF, 0x1163F, 0x116B6, 0x1172B, 0x11839, 0x1193D, 0x1193E,
    0x119E0, 0x11A34, 0x11A47, 0x11A99, 0x11C3F, 0x11D44, 0x11D45, 0x11D97]

def isVirama (code : Nat) : Bool :=
  viramas.contains code

end NodeConsole.Unicode
