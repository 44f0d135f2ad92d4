import NodeConsole.Text.Basic

/-!
Paths of a file system whose directories are separated by slashes.
-/

namespace NodeConsole.Path

def slash : UInt16 := 0x2F

/-- Takes one name of a path; the names that lead there are listed last first. -/
def follow (above : List Text) (name : Text) : List Text :=
  if name = "" ∨ name = "." then above
  else if name = ".." then above.drop 1
  else name :: above

/-- The names on a path from the root, without empty names and with dots carried out; above the
root there is only the root. -/
def settle (names : List Text) : List Text :=
  (names.foldl follow []).reverse

def names (path : Text) : List Text :=
  path.splitOn slash

def isAbsolute (path : Text) : Bool :=
  path.units.head? = some slash

/-- The absolute path that a path stands for, seen from a directory. -/
def join (directory path : Text) : Text :=
  if isAbsolute path then path
  else if path = "" then directory
  else directory ++ "/" ++ path

/-- The absolute path without dots that several paths lead to, each seen from the one before. -/
def resolve (directory : Text) (paths : List Text) : Text :=
  "/" ++ Text.join "/" (settle (names (paths.foldl join directory)))

end NodeConsole.Path
