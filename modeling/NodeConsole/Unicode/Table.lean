import NodeConsole.Number.Numeral

/-!
Properties of code points as tables. A table is written as runs from code point zero on: a count,
left out where it is one, and a mark that so many code points share.
-/

namespace NodeConsole.Unicode

/-- Code points from `first` up to, but not including, `next`, and what they share. -/
structure Run (α : Type) where
  first : Nat
  next : Nat
  value : α
deriving Repr

/-- Runs in ascending order without gaps. -/
abbrev Table (α : Type) := Array (Run α)

namespace Table

variable {α : Type}

def readRun (interpret : List Char → α) (first : Nat) (text : List Char) : Run α :=
  let (digits, mark) := text.span isDigit
  let count := if digits.isEmpty then 1 else digitsValue 10 digits
  { first, next := first + count, value := interpret mark }

/-- Reads runs that are separated by spaces; `done` holds those read, last first. -/
def readRuns (interpret : List Char → α) (first : Nat) (done : List (Run α)) :
    List (List Char) → Table α
  | [] => done.reverse.toArray
  | text :: rest =>
    let run := readRun interpret first text
    readRuns interpret run.next (run :: done) rest

def read (interpret : List Char → α) (rows : List String) : Table α :=
  readRuns interpret 0 [] (rows.flatMap fun row => row.toList.splitOn ' ')

/-- Looks for the run of a code point between two places of the table, with `fuel` above their
distance. -/
def search (table : Table α) (code : Nat) : Nat → Nat → Nat → Option α
  | 0, _, _ => none
  | fuel + 1, low, high =>
    let middle := (low + high) / 2
    match table[middle]? with
    | none => none
    | some run =>
      if high ≤ low then none
      else if code < run.first then search table code fuel low middle
      else if run.next ≤ code then search table code fuel (middle + 1) high
      else some run.value

def find? (table : Table α) (code : Nat) : Option α :=
  table.search code (table.size + 1) 0 table.size

end Table

end NodeConsole.Unicode
