import NodeConsole.Json.Value

/-!
Where the node is reached and where the web page is served, and settings that override some of it.
-/

namespace NodeConsole

structure Config where
  host : Text
  port : Int
  webPort : Int
deriving DecidableEq, Repr

namespace Config

def standard : Config where
  host := "127.0.0.1"
  port := 50000
  webPort := 8888

def toValue (config : Config) : Json.Value :=
  .object [
    ("host", .string config.host),
    ("port", .ofInt config.port),
    ("webPort", .ofInt config.webPort)]

end Config

/-- Some of the fields of a configuration. -/
structure Settings where
  host : Option Text := none
  port : Option Int := none
  webPort : Option Int := none
deriving DecidableEq, Repr, Inhabited

def Config.override (config : Config) (settings : Settings) : Config where
  host := settings.host.getD config.host
  port := settings.port.getD config.port
  webPort := settings.webPort.getD config.webPort

end NodeConsole
