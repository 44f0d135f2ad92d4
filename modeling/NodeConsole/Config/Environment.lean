import NodeConsole.Config.Basic
import NodeConsole.Failure
import NodeConsole.Number.Numeral

/-!
Settings from the variables of the environment. A variable that is empty counts as not set.
-/

namespace NodeConsole

abbrev Environment := List (String × Text)

namespace Environment

/-- The variables as a process keeps them: characters only, and none behind a zero. -/
def kept (environment : Environment) : Environment :=
  environment.map fun (name, value) => (name, ⟨value.repair.units.takeWhile (· ≠ 0)⟩)

def get? (environment : Environment) (name : String) : Option Text :=
  (environment.find? fun entry => entry.1 = name).map (·.2)

/-- The value of a variable that is set to a text that is not empty. -/
def set? (environment : Environment) (name : String) : Option Text :=
  (environment.get? name).filter (· ≠ "")

/-- The integer that the value of a variable spells, of any size. -/
def port (name : String) (value : Text) : Except Failure Int :=
  match (Numeral.ofText? value).bind fun numeral => numeral.toNumber.toInt? with
  | some port => .ok port
  | none => .error (.config [name ++ " must be an integer, got '" ++ value ++ "'"])

def port? (environment : Environment) (name : String) : Except Failure (Option Int) :=
  match environment.set? name with
  | some value => (port name value).map some
  | none => .ok none

/-- The settings that the environment makes. Of two ports that are no integers the first one is
reported. -/
def settings (environment : Environment) : Except Failure Settings := do
  let port ← environment.port? "RNODE_PORT"
  let webPort ← environment.port? "RNODE_WEB_PORT"
  pure { host := environment.set? "RNODE_HOST", port, webPort }

end Environment

end NodeConsole
