import NodeConsole.Text.Percent

/-!
Paths of URLs as lists of segments. Segments that stand for the directory itself or for the one
above are carried out as they are added, unless the path is taken as plain from its first segment
with a dot in front.
-/

namespace NodeConsole.Url

def isControl (char : Char) : Bool :=
  char.toNat < 0x20 || 0x7E < char.toNat

def isEscapedInPath (char : Char) : Bool :=
  isControl char || [' ', '"', '#', '<', '>', '?', '`', '\x7b', '\x7d'].contains char

def isEscapedInQuery (special : Bool) (char : Char) : Bool :=
  isControl char || [' ', '"', '#', '<', '>'].contains char || (special && char = '\'')

def isLetter (char : Char) : Bool :=
  ('a' ≤ char && char ≤ 'z') || ('A' ≤ char && char ≤ 'Z')

def lower (text : List Char) : List Char :=
  text.map Char.toLower

def isSlash (special : Bool) (char : Char) : Bool :=
  char = '/' || (special && char = '\\')

def isHere (segment : List Char) : Bool :=
  segment = ['.'] || lower segment = ['%', '2', 'e']

def isAbove (segment : List Char) : Bool :=
  ["..", ".%2e", "%2e.", "%2e%2e"].any fun spelling => lower segment = spelling.toList

/-- Whether a segment starts with a dot, but not as one that stands for a directory does. -/
def isHidden (segment : List Char) : Bool :=
  match segment with
  | '.' :: next :: _ => next ≠ '.'
  | _ => false

/-- A letter and a colon or a bar, the name of a drive. -/
def isDrive (segment : List Char) : Bool :=
  match segment with
  | [letter, mark] => isLetter letter && (mark = ':' || mark = '|')
  | _ => false

/-- Whether a path has one segment that starts as a drive does; a file's path never loses it. -/
def staysOnDrive (path : List (List Char)) : Bool :=
  match path with
  | [letter :: ':' :: _] => isLetter letter
  | _ => false

def leave (file : Bool) (path : List (List Char)) : List (List Char) :=
  if file && staysOnDrive path then path else path.dropLast

/-- Adds a segment. Behind the last one no slash follows, so one that stands for a directory ends
in an empty segment there; where there is no directory to leave, only a special scheme has that
segment. -/
def addSegment (special file isLast : Bool) (path : List (List Char)) (raw : List Char) :
    List (List Char) :=
  let segment := Percent.encode isEscapedInPath raw
  if isAbove segment then
    let above := leave file path
    if isLast && (special || !path.isEmpty) then above ++ [[]] else above
  else if isHere segment then
    if isLast then path ++ [[]] else path
  else if file && path.isEmpty && isDrive segment then
    path ++ [segment.take 1 ++ [':']]
  else path ++ [segment]

def addSegments (special file : Bool) : List (List Char) → List (List Char) → List (List Char)
  | path, [] => path
  | path, [segment] => addSegment special file true path segment
  | path, segment :: rest =>
    addSegments special file (addSegment special file false path segment) rest

/-- Whether a path is taken as plain. It has nothing to write as an escape, no escape and no
backslash, and a file's does not start with a drive; of the segments with a dot in front only the
first one is looked at, which must be a hidden one behind another segment. -/
def isPlain (file : Bool) (text : List Char) (segments : List (List Char)) : Bool :=
  !(text.any fun char => isEscapedInPath char || char = '%' || char = '\\') &&
    !(file && segments.head?.any isDrive) && text.head? ≠ some '.' &&
    (segments.find? fun segment => segment.head? = some '.').all isHidden

/-- The path whose text stands behind `start`. A plain path that starts a URL's keeps all its
segments, those that stand for directories too. -/
def extend (special file : Bool) (start : List (List Char)) (text : List Char) :
    List (List Char) :=
  let segments := text.splitOnP (isSlash special)
  if start.isEmpty && isPlain file text segments then segments
  else addSegments special file start segments

end NodeConsole.Url
