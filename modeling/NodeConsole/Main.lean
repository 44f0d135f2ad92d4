import NodeConsole.Program

/-!
The executable: it gathers what an invocation starts with, runs the program on it, and writes what
the program reports. It has no transport of its own, so every call to the node and every attempt to
listen fails.
-/

namespace NodeConsole.Main

def variableNames : List String := ["RNODE_HOST", "RNODE_PORT", "RNODE_WEB_PORT", "RNODE_CONFIG"]

def readEnvironment : IO Environment :=
  variableNames.filterMapM fun name => do
    pure ((← IO.getEnv name).map fun value => (name, value))

/-- What a path leads to; what cannot be read is known by the way in which reading it fails. -/
def readEntry (path : Text) : IO (Option Entry) := do
  try
    pure (some (.file (← IO.FS.readBinFile path.toString).toList))
  catch error =>
    match error with
    | .inappropriateType .. => pure (some .directory)
    | .permissionDenied .. => pure (some (.unreadable (toString error)))
    | _ => pure none

def readSystem (directory : Text) (environment : Environment) : IO FileSystem := do
  let workingDirectory : Text := toString (← IO.currentDir)
  let paths := Package.path directory :: Config.paths workingDirectory environment
  let entries ← paths.mapM fun path => do
    pure (path, ← readEntry path)
  pure {
    workingDirectory
    entry? := fun path => (entries.find? fun entry => entry.1 = path).bind (·.2)
    complaint := fun _ => "Unexpected text in JSON" }

def unconnected : Program.Transport where
  afterwards := .error { code := some 14, details := some "No connection established" }

def unbound : Failure :=
  .foreign "listen is not available"

def write (report : Program.Report) : IO Unit := do
  let stdout ← IO.getStdout
  let stderr ← IO.getStderr
  report.stdout.forM fun text => stdout.putStr text.toString
  report.stderr.forM fun entry => stderr.putStrLn entry.text.toString

end NodeConsole.Main

open NodeConsole in
def main (arguments : List String) : IO UInt32 := do
  let environment ← Main.readEnvironment
  let directory : Text := toString (← IO.appDir)
  let system ← Main.readSystem directory environment
  let report := Program.run
    { system, directory, environment, arguments := arguments.map Text.ofString }
    { transport := Main.unconnected, listening := .error Main.unbound }
  Main.write report
  pure (report.exit.getD 0).toUInt32
