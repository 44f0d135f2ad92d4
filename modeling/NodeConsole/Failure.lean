import NodeConsole.Text.Basic

/-!
The causes of failure, and what each of them means to the outside: the message, the exit code of a
run and the status of a response. An entry of the log is a line of text with a level and the failure
that it reports, if any.
-/

namespace NodeConsole

inductive ErrorCode where
  | invalidUsage
  | rpcFailure
  | missingField
  | configError
deriving DecidableEq, Repr

def ErrorCode.text : ErrorCode → String
  | .invalidUsage => "INVALID_USAGE"
  | .rpcFailure => "RPC_FAILURE"
  | .missingField => "MISSING_FIELD"
  | .configError => "CONFIG_ERROR"

inductive Failure where
  /-- The command line asks for nothing that the program does. -/
  | invalidUsage (message : Text)
  /-- A remote call did not bring an answer of the right shape. -/
  | call (method message : Text) (status : Option Int) (details : Option Text)
  /-- A form lacks a field. -/
  | missingField (field : Text)
  /-- A configuration is not valid; one message for each fault. -/
  | config (errors : List Text)
  /-- A failure of this program that is none of the above. -/
  | general (message : Text) (code : ErrorCode)
  /-- A request that is answered with a status of its own. -/
  | request (message : Text) (status : Int)
  | missingFile (path : Text)
  /-- Nothing is there to be opened. -/
  | absentFile (path : Text)
  | directoryRead
  /-- A text is not a JSON document; the message that says why. -/
  | malformedJson (message : Text)
  | invalidUrl
  | headersSent
  | unknownService (source : String) (service : Text)
  | unknownMethod (service method : Text)
  /-- The address of a node cannot be read as a target. -/
  | unreadableTarget (target : Text)
  /-- A target has the name of a common entry as its scheme. -/
  | unusableScheme
  /-- A server that names are looked up by is not given by its address. -/
  | invalidAddress (server : Text)
  /-- An array stands where a message should. -/
  | arrayForMessage (message : String)
  /-- Something that has no fields stands where a message should. -/
  | noMessage (message : String)
  /-- A value has no text. -/
  | textless
  /-- An error that something outside this program raised. -/
  | foreign (message : Text)
  /-- A foreign error about the type of a value. -/
  | foreignType (message : Text)
  /-- A value that was raised without being an error, known by its text. -/
  | bare (text : Text)
deriving DecidableEq, Repr, Inhabited

namespace Failure

def message : Failure → Text
  | .invalidUsage message => message
  | .call method message _ _ => method ++ " failed: " ++ message
  | .missingField field => "Missing form field: " ++ field
  | .config errors => "Invalid configuration: " ++ Text.join "; " errors
  | .general message _ => message
  | .request message _ => message
  | .missingFile path => "Config file not found: " ++ path
  | .absentFile path => "ENOENT: no such file or directory, open '" ++ path ++ "'"
  | .directoryRead => "EISDIR: illegal operation on a directory, read"
  | .malformedJson message => message
  | .invalidUrl => "Invalid URL"
  | .headersSent => "Cannot write headers after they are sent to the client"
  | .unknownService source service => "Service not found in " ++ source ++ ": rnode." ++ service
  | .unknownMethod service method => "Method not found: rnode." ++ service ++ "/" ++ method
  | .unreadableTarget target => "Could not parse target name \"" ++ target ++ "\""
  | .unusableScheme =>
    "registeredResolvers[target.scheme].getDefaultAuthority is not a function"
  | .invalidAddress server => "Invalid IP address: " ++ server
  | .arrayForMessage message =>
    "Failed to serialize message: expected object with " ++ message
      ++ " structure, got array instead"
  | .noMessage message => ".rnode." ++ message ++ ": object expected"
  | .textless => "Cannot convert object to primitive value"
  | .foreign message => message
  | .foreignType message => message
  | .bare text => text

def code? : Failure → Option ErrorCode
  | .invalidUsage _ => some .invalidUsage
  | .call .. => some .rpcFailure
  | .missingField _ => some .missingField
  | .config _ => some .configError
  | .general _ code => some code
  | _ => none

/-- Whether a failure is one of this program's own kinds, which all carry a code. -/
def isOwn (failure : Failure) : Bool :=
  failure.code?.isSome

def exitCode : Failure → Nat
  | .invalidUsage _ => 2
  | _ => 1

/-- The status that the cause alone gives. -/
def status : Failure → Int
  | .missingField _ => 400
  | .call .. => 502
  | _ => 500

/-- The status of the response: the one that a failed request names, or that of the cause. -/
def responseStatus : Failure → Int
  | .request _ status => status
  | failure => failure.status

def pageMessage : Failure → Text
  | .bare _ => "Internal Server Error"
  | failure => failure.message

end Failure

inductive Level where
  | error
  | warning
deriving DecidableEq, Repr

structure LogEntry where
  level : Level
  text : Text
  cause : Option Failure := none
deriving DecidableEq, Repr

end NodeConsole
