import NodeConsole.Text.Basic

/-!
Laying out store contents: in a listing `P | Q | R` the space behind each bar becomes a line end.
The separators are found from the left and do not overlap.
-/

namespace NodeConsole.Page

def space : UInt16 := 0x20

def bar : UInt16 := 0x7C

def lineEnd : UInt16 := 0x0A

/-- How much of a separator the last units are. -/
inductive Matched where
  | nothing
  | space
  | spaceBar
deriving DecidableEq, Repr

/-- One unit of a listing: what is matched after it, and the unit that it becomes. -/
def layOutUnit (matched : Matched) (unit : UInt16) : Matched × UInt16 :=
  if unit = space then
    if matched = .spaceBar then (.nothing, lineEnd) else (.space, space)
  else if unit = bar ∧ matched = .space then (.spaceBar, bar)
  else (.nothing, unit)

/-- Lays out the rest of a listing; `done` holds what is laid out, last first. -/
def layOutFrom (matched : Matched) (done : List UInt16) : List UInt16 → List UInt16
  | [] => done.reverse
  | unit :: rest =>
    layOutFrom (layOutUnit matched unit).1 ((layOutUnit matched unit).2 :: done) rest

def layOutStore (listing : Text) : Text :=
  ⟨layOutFrom .nothing [] listing.units⟩

end NodeConsole.Page
