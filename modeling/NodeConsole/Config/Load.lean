import NodeConsole.Config.Check
import NodeConsole.Config.Environment
import NodeConsole.File.System
import NodeConsole.Json.Reader
import NodeConsole.Text.Utf8

/-!
Loading a configuration: the standard one, overridden by a file, overridden by the environment. A
file that is asked for must be valid settings; one that is only found is skipped with a warning if
it is not.
-/

namespace NodeConsole.Config

/-- The names of the files that are looked for, the first one that exists being the one. -/
def fileNames : List Text := ["rnode.config.json", ".rnoderc", ".rnoderc.json"]

def filePaths (workingDirectory directory : Text) : List Text :=
  fileNames.map fun name => Path.resolve workingDirectory [directory, name]

def findFile? (system : FileSystem) (directory : Text) : Option Text :=
  (filePaths system.workingDirectory directory).find? system.exists?

/-- A message about settings from a file: it starts with the field, or with the file where it is
about no single field. -/
def fileMessage (path : Text) (issue : Issue) : Text :=
  (issue.field.map Text.ofString).getD path ++ ": " ++ issue.problem.message

def loadFile (system : FileSystem) (path : Text) : Except Failure Settings :=
  if system.exists? path then do
    let value ← system.document path
    match Settings.ofValue value with
    | .ok settings => .ok settings
    | .error issues => .error (.config (issues.map (fileMessage path)))
  else .error (.missingFile path)

structure LoadOptions where
  path : Option Text := none
  directory : Option Text := none
deriving DecidableEq, Repr, Inhabited

/-- The file that the options ask for or, without an option, the environment; an empty path asks
for none. -/
def askedPath? (options : LoadOptions) (environment : Environment) : Option Text :=
  (options.path.or (environment.get? "RNODE_CONFIG")).filter (· ≠ "")

def paths (workingDirectory : Text) (environment : Environment) (options : LoadOptions := {}) :
    List Text :=
  let directory := options.directory.getD workingDirectory
  match askedPath? options environment with
  | some path => [Path.resolve workingDirectory [directory, path]]
  | none => filePaths workingDirectory directory

structure Loaded where
  warnings : List LogEntry
  result : Except Failure Config

def skipWarning (path : Text) (cause : Failure) : LogEntry where
  level := .warning
  text := "Warning: Failed to load config from " ++ path ++ ":"
  cause := some cause

def fileSettings (system : FileSystem) (environment : Environment) (options : LoadOptions) :
    List LogEntry × Except Failure Settings :=
  let directory := options.directory.getD system.workingDirectory
  match askedPath? options environment with
  | some path => ([], loadFile system (Path.resolve system.workingDirectory [directory, path]))
  | none =>
    match findFile? system directory with
    | none => ([], .ok {})
    | some path =>
      match loadFile system path with
      | .ok settings => ([], .ok settings)
      | .error cause => ([skipWarning path cause], .ok {})

def validated (config : Config) : Except Failure Config :=
  match validate config.toValue with
  | [] => .ok config
  | errors => .error (.config errors)

def load (system : FileSystem) (environment : Environment) (options : LoadOptions := {}) :
    Loaded :=
  let (warnings, fromFile) := fileSettings system environment options
  { warnings
    result := do
      let file ← fromFile
      let fromEnvironment ← environment.settings
      validated ((standard.override file).override fromEnvironment) }

end NodeConsole.Config
