import NodeConsole.Unicode.Table

/-!
Which of the code points that a domain name may hold are known as marks, that is, to combine with
the character in front of them. A name may also hold later marks; nothing sets them apart.
-/

namespace NodeConsole.Unicode

namespace Mark

def rows : List String :=
  [
    "768n 113m 274n 8m 262n 45m n m n 2m n 2m n 9m 64n 11m 48n 21m 16n m 101n 8m n 6m 2n 2m n 4m",
    "35n m 30n 29m 89n 11m 58n 9m 9n m 24n 4m n 9m n 3m n 7m 41n 5m 117n 49m 54n 3m n 18m n 15m",
    "2n 2m 29n 4m 55n m n 16m 9n 9m 2n 4m 24n 7m 55n 32m 20n 2m 3n m 11n 4m 55n m n 18m 18n 4m",
    "20n 11m 55n m n 33m 3n 4m 28n m 59n 18m 7n 15m 26n 5m 57n 26m 10n 4m 27n 3m 56n m n 31m 5n",
    "4m 26n 4m 55n 2m n 16m 9n m 10n 4m 27n 4m 69n 28m 12n 2m 61n m 2n 11m 8n 8m 98n m 2n 9m 11n",
    "6m 74n 2m 27n m n m n m 4n 2m 49n 20m n 2m 5n 49m 8n m 100n 20m 23n 4m 4n 3m n 3m 2n 7m 3n",
    "4m 13n 12m n m 10n 4m 703n 3m 946n 3m 29n 3m 29n 14m 18n 14m 54n 30m 9n 3m 165n 2m 34n m",
    "118n 32m 215n 7m 55n 43m 48n 17m 63n 5m 47n 17m 38n 9m 12n 3m 30n 13m 56n 22m 40n 23m 149n",
    "3m n 21m 4n m 6n m 2n 3m 198n 58m n 6m 719n 52m 3051n 4m 140n m 96n 32m 554n 6m 105n 4m",
    "30162n 4m n 10m 32n 2m 80n 2m 272n m 3n m 4n m 23n 5m 4n 4m 80n 2m 50n 26m 18n 18m 13n m 38n",
    "8m 25n 24m 33n 4m 47n 14m 36n m 67n 23m 3n m 8n 4m 43n 3m 50n m n 3m 2n 2m 5n 2m n m 41n 5m",
    "5n 12m 226n 8m n 4m 20270n 148m 622n 37m 952n 131m 96n m 149n 10m 1665n 15m 40n 8m 165n 6m",
    "569n 12m 379n 2m 153n 11m 175n 3m 53n 15m 56n 4m 45n 11m 69n 3m 36n 15m 15n 2m 44n m 12n 3m",
    "48n 14m 8n 4m n 2m 92n 12m 6n m 160n 17m 16n 5m 54n 2m n 18m 7n 6m 5n 158m 53n 18m 23n m 81n",
    "20m 235n 18m 27n 36m 48n 17m 106n 13m 101n 19m 252n 15m 245n 15m n m n 2m 141n 16m 3n 28m n",
    "10m 40n 7m n 4m 8n 9m n 11m 46n 16m 405n 17m 82n 110m 49n 21m n 9m 58n 14m 347n 4m 19449n 5m",
    "59n 7m 1048n m n 66m 81n 28m 19613n 2m 5318n 5m 3n 22m 2n 7m 30n 4m 148n 3m 1979n 55m 4n 50m",
    "8n m 14n m 22n 1125m 256n 143m 161n 7m 437n 4m 1504n 82m 34n 7m 988853n"]

def table : Table Bool :=
  Table.read (fun mark => mark = ['m']) rows

end Mark

def isMark (code : Nat) : Bool :=
  (Mark.table.find? code).getD false

end NodeConsole.Unicode
