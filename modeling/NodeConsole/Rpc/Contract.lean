import NodeConsole.Failure
import NodeConsole.Json.Value
import NodeConsole.Text.Utf8
import NodeConsole.Wire.Message

/-!
The contract of the node: its services, their methods, and the messages that these exchange. Every
message has at most one field, a text or a list of texts.
-/

namespace NodeConsole.Rpc

open Json (Value)

structure Field where
  name : String
  repeated : Bool := false
deriving DecidableEq, Repr

structure Message where
  name : String
  field : Option Field
deriving DecidableEq, Repr

structure Method where
  name : String
  request : Message
  response : Message
deriving DecidableEq, Repr

inductive Entry where
  | method (method : Method)
  /-- An entry that every table has and under which nothing can be called. -/
  | common
deriving DecidableEq, Repr

structure Service where
  name : String
  methods : List Method
deriving DecidableEq, Repr

structure Contract where
  source : String
  services : List Service
  messages : List Message
deriving DecidableEq, Repr

namespace Message

def runRequest : Message := { name := "CmdRequest", field := some { name := "line" } }

def evalRequest : Message := { name := "EvalRequest", field := some { name := "fileName" } }

def result : Message := { name := "Result", field := some { name := "output" } }

def listPeersRequest : Message := { name := "ListPeersRequest", field := none }

def peerList : Message :=
  { name := "PeerList", field := some { name := "peers", repeated := true } }

def isMissing : Value → Bool
  | .absent => true
  | .null => true
  | _ => false

mutual

/-- The text that a value is written as where a text is asked for. The items of an array are
joined by commas. -/
def writtenText : Value → Text
  | .string text => text
  | .number value => value.text
  | .bool flag => if flag then "true" else "false"
  | .array items => Text.join "," (writtenItems items)
  | .object _ => "[object Object]"
  | .null => "null"
  | .absent => "undefined"

/-- The texts of items; an item that is missing has none. -/
def writtenItems : List Value → List Text
  | [] => []
  | item :: rest => (if isMissing item then "" else writtenText item) :: writtenItems rest

end

mutual

/-- Whether a value has a text. An object has none if it says itself what its text is. -/
def hasText : Value → Bool
  | .array items => haveText items
  | .object fields => fields.all fun field => field.1 ≠ "toString"
  | _ => true

def haveText : List Value → Bool
  | [] => true
  | item :: rest => hasText item && haveText rest

end

/-- The bytes of a message. A field that is there is written even if it is empty. -/
def encode (message : Message) (value : Value) : List UInt8 :=
  match message.field with
  | none => []
  | some field =>
    let content := value.field field.name
    if isMissing content then [] else Wire.textField (Wire.textContent (writtenText content))

/-- The bytes of a message, if the value can stand for one. Where the message has no field, all
values but arrays can. -/
def encode? (message : Message) (value : Value) : Except Failure (List UInt8) :=
  match value, message.field with
  | .array _, _ => .error (.arrayForMessage message.name)
  | _, none => .ok []
  | .object _, some field =>
    if hasText (value.field field.name) then .ok (message.encode value) else .error .textless
  | _, some _ => .error (.noMessage message.name)

/-- The value of the bytes of a message. A text that is there more than once has its last
content, one that is not there is empty. -/
def decode? (message : Message) (bytes : List UInt8) : Option Value :=
  (Wire.texts? bytes).map fun contents =>
    match message.field with
    | none => .object []
    | some field =>
      let texts := contents.map fun content => Value.ofString (Utf8.toStringLossy content)
      .object [(Text.ofString field.name,
        if field.repeated then .array texts else texts.getLast?.getD (.ofString ""))]

end Message

namespace Method

def run : Method := { name := "Run", request := .runRequest, response := .result }

def eval : Method := { name := "Eval", request := .evalRequest, response := .result }

def listPeers : Method :=
  { name := "ListPeers", request := .listPeersRequest, response := .peerList }

end Method

namespace Service

def repl : Service := { name := "Repl", methods := [.run, .eval] }

def diagnostics : Service := { name := "Diagnostics", methods := [.listPeers] }

end Service

namespace Contract

def node : Contract where
  source := "rnode.proto"
  services := [.repl, .diagnostics]
  messages := [.runRequest, .evalRequest, .result, .listPeersRequest, .peerList]

/-- The full names of all services and messages, sorted. -/
def names (contract : Contract) : List String :=
  ((contract.messages.map (·.name) ++ contract.services.map (·.name)).map ("rnode." ++ ·)).mergeSort

def service (contract : Contract) (name : Text) : Except Failure Service :=
  match contract.services.find? fun service => service.name = name with
  | some service => .ok service
  | none => .error (.unknownService contract.source name)

def method (contract : Contract) (service method : Text) : Except Failure Method := do
  let found ← contract.service service
  match found.methods.find? fun candidate => candidate.name = method with
  | some result => pure result
  | none => throw (.unknownMethod service method)

/-- The names that stand for an entry in every table. -/
def commonNames : List String := [
  "constructor", "hasOwnProperty", "isPrototypeOf", "propertyIsEnumerable", "toLocaleString",
  "toString", "valueOf", "__proto__", "__defineGetter__", "__defineSetter__", "__lookupGetter__",
  "__lookupSetter__"]

def entry (contract : Contract) (service method : Text) : Except Failure Entry := do
  let found ← contract.service service
  match contract.method found.name method with
  | .ok method => pure (.method method)
  | .error cause => if commonNames.any fun name => name = method then pure .common else throw cause

end Contract

def methodPath (service method : String) : String :=
  "/rnode." ++ service ++ "/" ++ method

end NodeConsole.Rpc
