import NodeConsole.Unicode.Table

/-!
The directions of the code points that a domain name may hold. A name may also hold later code
points, of which no direction is known.
-/

namespace NodeConsole.Unicode

inductive Direction where
  | leftToRight
  | rightToLeft
  | arabicLetter
  | arabicNumber
  | europeanNumber
  | europeanSeparator
  | europeanTerminator
  | commonSeparator
  | otherNeutral
  | boundaryNeutral
  | mark
  | space
  | unknown
deriving DecidableEq, Repr

namespace Direction

def ofMark (mark : List Char) : Direction :=
  match String.ofList mark with
  | "L" => .leftToRight
  | "R" => .rightToLeft
  | "AL" => .arabicLetter
  | "AN" => .arabicNumber
  | "EN" => .europeanNumber
  | "ES" => .europeanSeparator
  | "ET" => .europeanTerminator
  | "CS" => .commonSeparator
  | "ON" => .otherNeutral
  | "BN" => .boundaryNeutral
  | "NSM" => .mark
  | "U" => .unknown
  | _ => .space

def rows : List String :=
  [
    "9BN S B S WS B 14BN 3B S WS 2ON 3ET 5ON ES CS ES 2CS 10EN CS 38ON 26L 4ON 34BN ON 4ET 10ON",
    "6ET 41ON 24L ON 449L 2ON 7L 14ON 2L 28ON L 17ON 113NSM 4L 2ON 127L 2ON 139L 8NSM 255L 5ON",
    "2ET 45NSM R NSM R 2NSM R 2NSM R 9NSM 54R 2ON AL 2ET AL CS AL 2ON 11NSM 2AL U 45AL 21NSM 10AN",
    "ET 2AN 3AL NSM 101AL 8NSM ON 6NSM 2AL 2NSM ON 4NSM 2AL 10EN 23AL NSM 30AL 29NSM 89AL 11NSM",
    "15AL 43R 9NSM 2R 4ON 3R NSM 24R 4NSM R 9NSM R 3NSM R 7NSM 41R 5NSM 2R 16AL 48U 21AL U 18AL",
    "11U 48NSM 55L NSM L NSM 4L 8NSM 4L NSM 3L 15NSM 2L 2NSM 29L NSM 58L NSM 4L 6NSM 6L NSM 20L",
    "4NSM 12L 2ET 7L ET 2L 5NSM 57L 2NSM 3L 27NSM 20L 2NSM 3L NSM 11L 2NSM 57L NSM 4L 8NSM 4L",
    "3NSM 18L 4NSM 11L 8ET L 8NSM 58L NSM 2L NSM L 6NSM 6L 10NSM 11L 4NSM 28L NSM 61L NSM 12L",
    "3NSM 35L 6ON ET 6ON NSM 3L NSM 55L U L 3NSM 5L 18NSM 5L 3U 2L 4NSM 18L 7ON 2L NSM 58L NSM",
    "15L 9NSM 8L U 4L 4NSM 13L 13U 2NSM 57L 2NSM 4L 5NSM 7L NSM 20L 4NSM 27L NSM 72L 5NSM 3L 6NSM",
    "89L NSM 2L 11NSM ET 7L 8NSM 98L NSM 2L 9NSM 11L 6NSM 2U 72L 2NSM 27L NSM L NSM L NSM 4ON 51L",
    "14NSM L 5NSM L 2NSM 5L 49NSM 8L NSM 102L 4NSM L 6NSM L 2NSM 2L 2NSM 25L 2NSM 4L 3NSM 16L",
    "4NSM 13L NSM 2L 2NSM 6L NSM 15L NSM 703L 3NSM 48L 16ON 96L ON 666L 5ON 109L U 4L 3NSM 11U",
    "18L 3NSM 29L 14NSM 18L 14NSM 55L 7NSM 8L NSM 2L 11NSM 7L ET L 3NSM 16L 32ON 117L 2NSM 34L",
    "NSM 118L 3NSM 4L 2NSM 9L NSM 6L 7NSM 6ON 152L 34ON 23L 2NSM 2L 3NSM 56L NSM L 9NSM L NSM 2L",
    "8NSM 6L 13NSM 48L 17NSM 63U 4NSM 48L NSM L 5NSM L NSM 5L NSM 9L 4U 27L 9NSM 9L 3U 2NSM 32L",
    "4NSM 2L 2NSM L 3NSM 56L NSM L 2NSM 3L NSM L 3NSM 58L 8NSM 2L 5NSM 149L 3NSM L 13NSM L 7NSM",
    "4L NSM 6L NSM 3L 2NSM 198L 58NSM U 6NSM 523L 4BN 32ON 5ET 15ON CS 91ON 32ET 16U 52NSM 42ON",
    "12ET 20ON 60L 136ON ES ET 290ON 69L 26ON L 790ON L 339ON 256L 816ON 47L 2U 132L 7ON 3L 4NSM",
    "6L 7ON 127L NSM 96L 32NSM 83ON 45U 389ON 3L 25ON 9L 4NSM 2L ON 6L 4ON 2L 4ON 88L 4NSM 3L ON",
    "90L ON 196L 48ON 7120L 64ON 20989L 3U 1168L 64ON 317L 3ON 95L 4NSM ON 10NSM 3ON 29L 2NSM 80L",
    "2NSM 14L 35ON 101L ON 56L 2U 14L 37U 12L NSM 3L NSM 4L NSM 25L 2NSM L 4ON 4NSM 8L 8ET 52L",
    "12ON 68L 10NSM 18L 18NSM 13L NSM 38L 8NSM 25L 11NSM 46L 3NSM 48L NSM 2L 4NSM 2L 2NSM 39L NSM",
    "67L 6NSM 2L 2NSM 2L 11NSM 3L NSM 8L NSM 47L NSM 51L NSM L 3NSM 2L 2NSM 5L 2NSM L NSM 42L",
    "2NSM 8L 11NSM 105L 86ON 37L NSM 2L NSM 4L 3NSM 20270L 148NSM 16AL 380U 2ON 189U ON 34U 37NSM",
    "46ON 397AL 257L ON 62L 77ON 3L 64ON 45L 131NSM 96L NSM 31EN 118L 10NSM 535L 105U 384L 128U",
    "287R ON 225R 15NSM 40R 8NSM 165R 6NSM 78R 7ON 448R 36AL 12NSM 336AN 43R 2NSM 80R 3U 48R 22AL",
    "11NSM 31AL 64U 80R L NSM 54L 15NSM 11L 20ON 10L 15U 3NSM 49L 4NSM 2L 2NSM 7L 14U 48L 3NSM",
    "36L 5NSM L 9NSM 61L NSM 12L 2NSM 52L 9NSM 10L 4NSM 2L NSM 95L 3NSM 2L NSM L 2NSM 6L NSM 65U",
    "95L NSM 3L 13NSM 16L 2NSM 57L 2NSM 3L NSM 37L 154NSM 56L 8NSM 2L 3NSM L NSM 23L NSM 84L 6NSM",
    "L NSM 4L 2NSM L 2NSM 238L 6NSM 4L 2NSM L 2NSM 27L 36NSM 51L 8NSM 2L NSM L 2NSM 31L 32ON 43L",
    "NSM L NSM 2L 6NSM L NSM L 7U 93L 3NSM 2L 4NSM L 9NSM 16L 192U 47L 9NSM L 2NSM 256L 2NSM L",
    "NSM 4L NSM 144L 8NSM 4L NSM 32L 6NSM 2L 2NSM 40L 6NSM 2L 4NSM 8L 9NSM L 6NSM 2L 3NSM 46L",
    "13NSM L 2NSM 22L 16U 64L 256U 48L 14NSM 84L 23NSM L 7NSM L 2NSM L 75NSM 49L 21NSM L 9NSM 64L",
    "3NSM 2L NSM L NSM 347L 2NSM 11L 176U 37L 8ON 4ET 30ON 3985L 112U 1071L 4049U 9840L 96U 32L",
    "5NSM 59L 7NSM 1048L NSM 63L 4NSM 79L ON L 12NSM 16384L 16U 287L 49U 5L 15U 2873L 2NSM 4705L",
    "256U 359L 3NSM 17L 8NSM 2L 7NSM 30L 4NSM 59L 23U 66ON 3NSM 123ON 32U 32L 96ON 1696L 55NSM 4L",
    "50NSM 8L NSM 14L NSM 22L 1125NSM 256U 143NSM 113U 48L 7NSM 345L 48U 44L 4NSM 15L 465ET 816U",
    "208R 82NSM 34R 7NSM 806R 639AL 608ON 29L 3ON 61L 57ON 122L 1148ON 4U 148ON 12U 89ON 7U 16ON",
    "16U 377ON U 82ON U 168ON 3U 3ON 5U 7ON 9U 25ON 7U 7ON 9U 3ON 13U 7ON 41U 1280ON 42718L 34U",
    "4149L 11U 23568L 912560U"]

def table : Table Direction :=
  Table.read ofMark rows

end Direction

def direction (code : Nat) : Direction :=
  (Direction.table.find? code).getD .leftToRight

end NodeConsole.Unicode
