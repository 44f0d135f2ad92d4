import NodeConsole.Unicode.Table

/-!
The combining classes of the code points that a domain name may hold. Zero is the class of
starters; marks of different classes may change places.
-/

namespace NodeConsole.Unicode

namespace CombiningClass

def rows : List String :=
  [
    "768c0 21c230 c232 4c220 c232 c216 5c220 2c202 4c220 2c202 11c220 5c1 4c220 10c230 3c220",
    "3c230 3c220 3c230 4c220 c230 c232 2c220 c230 c233 2c234 c233 2c234 c233 14c230 274c0 5c230",
    "265c0 c220 4c230 c220 3c230 c222 c220 6c230 6c220 2c230 c220 2c230 c222 c228 c230 c10 c11",
    "c12 c13 c14 c15 c16 c17 c18 2c19 c20 c21 c22 c0 c23 c0 c24 c25 c0 c230 c220 c0 9c18 64c0",
    "8c230 c30 c31 c32 48c0 c27 c28 c29 c30 c31 c32 c33 c34 2c230 2c220 5c230 c220 2c230 c220",
    "16c0 c35 101c0 8c230 c0 4c230 c220 c230 2c0 2c230 c0 c220 2c230 c220 35c0 c36 30c0 c230 c220",
    "2c230 c220 2c230 3c220 c230 2c220 c230 c220 3c230 c220 c230 c220 c230 c220 c230 c220 4c230",
    "158c0 7c230 c220 c230 9c0 c220 24c0 4c230 c0 9c230 c0 3c230 c0 7c230 41c0 5c220 58c0 c230",
    "3c220 4c230 42c0 5c230 5c220 15c230 c220 2c230 c220 2c230 c220 3c230 3c220 c27 c28 c29 3c230",
    "c220 2c230 2c220 5c230 60c0 c7 16c0 c9 3c0 c230 c220 2c230 103c0 c7 16c0 c9 48c0 3c230 59c0",
    "2c7 15c0 4c9 107c0 c7 16c0 3c9 108c0 c7 16c0 8c9 120c0 3c9 108c0 c7 16c0 8c9 c84 2c91 100c0",
    "c7 16c0 8c9 102c0 2c9 16c0 c9 124c0 5c9 105c0 2c103 5c9 9c0 4c107 108c0 2c118 c9 13c0 4c122",
    "76c0 2c220 27c0 c220 c0 c220 c0 c216 55c0 c129 2c130 6c132 4c130 2c0 2c130 2c230 c9 c0 2c230",
    "62c0 c220 112c0 c7 c0 2c9 82c0 c220 719c0 3c230 948c0 11c9 21c0 c9 157c0 c9 10c0 3c230 201c0",
    "c228 143c0 c222 c230 5c220 215c0 c230 c220 71c0 c9 20c0 10c230 c220 48c0 5c230 6c220 2c230",
    "c220 c0 2c220 2c230 2c220 5c230 c220 53c230 52c0 c7 15c0 c9 38c0 c230 c220 7c230 54c0 2c9",
    "58c0 c7 11c0 10c9 59c0 4c7 149c0 3c230 c0 c1 5c220 2c230 4c220 c230 c0 7c1 4c0 c220 6c0 c230",
    "3c0 2c230 198c0 2c230 c220 7c230 c220 2c230 c234 c214 c220 c202 37c230 c232 2c228 c220 c218",
    "c230 c233 c220 c230 2c220 719c0 2c230 2c1 4c230 3c1 2c230 4c0 c230 3c0 2c1 c230 c220 c230",
    "2c1 4c220 20c230 3051c0 4c230 140c0 c9 96c0 32c230 554c0 c218 c228 c232 c222 2c224 105c0 4c8",
    "30162c0 c230 4c0 10c230 32c0 2c230 80c0 2c230 276c0 c9 37c0 4c9 148c0 c9 27c0 18c230 57c0",
    "3c220 37c0 12c9 84c0 c7 12c0 c9 239c0 c230 c0 2c230 c220 2c0 2c230 5c0 2c230 c0 c230 52c0",
    "11c9 236c0 3c9 20270c0 148c26 622c0 7c230 7c220 23c230 952c0 131c220 96c0 c220 149c0 10c230",
    "1677c0 c220 c0 c230 40c0 c230 c1 5c220 c9 165c0 c230 5c220 569c0 12c230 379c0 2c230 80c0",
    "3c220 70c0 2c220 3c230 c220 c230 4c220 49c0 c230 c220 c230 c220 192c0 c9 41c0 c9 14c0 c9",
    "57c0 c9 c7 69c0 3c230 48c0 3c9 61c0 c7 76c0 c9 9c0 c7 106c0 c9 c7 178c0 c7 6c9 75c0 2c7 16c0",
    "3c9 22c0 154c230 66c0 c9 3c0 c7 23c0 c230 99c0 c9 c7 251c0 c9 c7 126c0 c9 118c0 c9 c7 115c0",
    "5c9 265c0 c9 c7 258c0 2c9 4c0 c7 156c0 c9 83c0 c9 18c0 9c9 73c0 c9 421c0 c9 258c0 c7 c0 2c9",
    "81c0 c9 425c0 2c9 19373c0 5c1 59c0 7c230 1209c0 16c6 19614c0 c1 5318c0 2c216 3c1 3c0 c226",
    "13c216 8c220 2c0 5c230 2c220 30c0 4c230 148c0 3c230 3515c0 256c230 48c0 7c230 375c0 18c230",
    "44c0 4c230 508c0 2c232 c220 c230 992c0 82c220 34c0 6c230 c7 988853c0"]

def table : Table Nat :=
  Table.read (fun mark => digitsValue 10 (mark.drop 1)) rows

end CombiningClass

def combiningClass (code : Nat) : Nat :=
  (CombiningClass.table.find? code).getD 0

end NodeConsole.Unicode
