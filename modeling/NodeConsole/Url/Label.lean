import NodeConsole.Unicode.Direction
import NodeConsole.Unicode.Joining
import NodeConsole.Unicode.Mark

/-!
Labels: the parts of a domain name between its dots, as code points. A label beyond ASCII must not
start with a mark, a joiner must stand where the script has a use for one, and letters of scripts
with opposite directions must not be mixed.
-/

namespace NodeConsole.Url.Label

open Unicode

def joiner : Nat := 0x200D

def nonJoiner : Nat := 0x200C

def joinsNext (code : Nat) : Bool :=
  joining code = .toNext || joining code = .toBoth

def joinsPrevious (code : Nat) : Bool :=
  joining code = .toPrevious || joining code = .toBoth

/-- Whether a joiner of either kind may stand between these parts of a label, of which the first
has its last code point in front. Both may follow a virama; a non-joiner may also keep letters apart
that would join. -/
def mayJoin (code : Nat) (before after : List Nat) : Bool :=
  before.head?.any isVirama ||
    (code = nonJoiner && before.any joinsNext && after.any joinsPrevious)

/-- Whether the first joiner of a label may stand where it does, if the label has one; `before`
holds the code points passed, last first. -/
def joinerVerdict? (before : List Nat) : List Nat → Option Bool
  | [] => none
  | code :: after =>
    if code = joiner ∨ code = nonJoiner then some (mayJoin code before after)
    else joinerVerdict? (code :: before) after

def isRightToLeft (direction : Direction) : Bool :=
  [.rightToLeft, .arabicLetter, .arabicNumber].contains direction

/-- The directions that a label of either direction may have. -/
def isNeutral (direction : Direction) : Bool :=
  [.europeanNumber, .europeanSeparator, .commonSeparator, .europeanTerminator, .otherNeutral,
    .boundaryNeutral, .mark].contains direction

/-- Whether directions can stand together; without one from the right any can. In a label that
starts from the left the last one is not looked at, marks at the end aside; a label that starts
otherwise must end with a letter or a number, and has numbers of one kind only. -/
def agree (directions : List Direction) : Bool :=
  let counted := (directions.reverse.dropWhile (· = .mark)).reverse
  if counted.isEmpty then false
  else if !directions.any isRightToLeft then true
  else if directions.head? = some .leftToRight then
    counted.dropLast.all fun direction => direction = .leftToRight || isNeutral direction
  else
    counted.all (fun direction => isRightToLeft direction || isNeutral direction) &&
      !(counted.contains .europeanNumber && counted.contains .arabicNumber) &&
      counted.getLast?.any fun last => isRightToLeft last || last = .europeanNumber

/-- Whether code points of which each may stand in a name make a label. A label with a joiner is
judged by that alone, whatever its directions. -/
def isValid (label : List Nat) : Bool :=
  match label with
  | [] => false
  | first :: _ =>
    !isMark first && (joinerVerdict? [] label).getD (agree (label.map direction))

end NodeConsole.Url.Label
