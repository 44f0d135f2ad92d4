import NodeConsole.Failure
import NodeConsole.File.Path
import NodeConsole.Json.Reader
import NodeConsole.Text.Utf8

/-!
What a program sees of a file system: its working directory, what a path leads to, and what comes of
reading a file there as text or as a JSON document. A tree of named files and directories is one
such file system. Its names are made of characters, so that a path leads where it does with its
broken characters replaced.
-/

namespace NodeConsole

inductive Entry where
  | file (content : List UInt8)
  | directory
  /-- A file that exists but cannot be read; the message that says why. -/
  | unreadable (message : Text)
deriving DecidableEq, Repr

structure FileSystem where
  workingDirectory : Text
  entry? : Text → Option Entry
  /-- What is said of a text that is not a JSON document; the wording is left to the platform. -/
  complaint : String → Text

namespace FileSystem

def exists? (system : FileSystem) (path : Text) : Bool :=
  (system.entry? path).isSome

def read (system : FileSystem) (path : Text) : Except Failure String :=
  match system.entry? path with
  | none => .error (.absentFile path)
  | some .directory => .error .directoryRead
  | some (.unreadable message) => .error (.foreign message)
  | some (.file content) => .ok (Utf8.toStringLossy content)

def document (system : FileSystem) (path : Text) : Except Failure Json.Value := do
  let text ← system.read path
  match Json.Value.ofText? text with
  | some value => .ok value
  | none => .error (.malformedJson (system.complaint text))

end FileSystem

inductive FileTree where
  | file (content : List UInt8)
  | directory (children : List (Text × FileTree))
deriving Inhabited

/-- How many bytes a path may have that leads anywhere. -/
def pathLimit : Nat := 4095

namespace FileTree

def empty : FileTree :=
  .directory []

def entry : FileTree → Entry
  | .file content => .file content
  | .directory _ => .directory

/-- Puts a tree at the end of a list of names, making the directories that lead there. -/
def insert (leaf : FileTree) : List Text → FileTree → FileTree
  | [], .directory children =>
    match leaf with
    | .directory [] => .directory children
    | other => other
  | [], .file _ => leaf
  | name :: rest, tree =>
    let children := match tree with
      | .directory children => children
      | .file _ => []
    let below := ((children.find? fun child => child.1 = name).map (·.2)).getD empty
    .directory ((name, insert leaf rest below) :: children.filter fun child => child.1 ≠ name)

/-- Follows names from the first of a list of trees, of which each is a child of the next. Even an
empty name or a dot can only follow a directory. -/
def walk : List FileTree → List Text → Option FileTree
  | [], _ => none
  | tree :: _, [] => some tree
  | .file _ :: _, _ :: _ => none
  | .directory children :: above, name :: rest =>
    if name = "" ∨ name = "." then walk (.directory children :: above) rest
    else if name = ".." then
      match above with
      | [] => walk [.directory children] rest
      | parent :: higher => walk (parent :: higher) rest
    else
      match children.find? fun child => child.1 = name with
      | some (_, child) => walk (child :: .directory children :: above) rest
      | none => none

def toSystem (root : FileTree) (workingDirectory : Text) (complaint : String → Text) :
    FileSystem where
  workingDirectory
  complaint
  entry? path :=
    if path.isEmpty || pathLimit < (Utf8.encode path.toChars).length then none
    else (walk [root] (Path.names (Path.join workingDirectory path.repair))).map entry

end FileTree

end NodeConsole
