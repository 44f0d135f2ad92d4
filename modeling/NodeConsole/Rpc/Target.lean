import NodeConsole.Address
import NodeConsole.Rpc.Contract

/-!
Targets: what a connection is made to. A target is a path, which may have a scheme and an authority
in front; a host with its port is such a path, so that only line ends in it make it unreadable.
-/

namespace NodeConsole.Rpc

def target (host : Text) (port : Int) : Text :=
  host ++ ":" ++ Number.integerText port

namespace Target

def isLineEnd (unit : UInt16) : Bool :=
  [0x0A, 0x0D, 0x2028, 0x2029].contains unit

def isSchemeUnit (unit : UInt16) : Bool :=
  (0x30 ≤ unit && unit ≤ 0x39) || (0x41 ≤ unit && unit ≤ 0x5A) || (0x61 ≤ unit && unit ≤ 0x7A)
    || [0x2B, 0x2D, 0x2E].contains unit

def splitScheme? (units : List UInt16) : Option (List UInt16 × List UInt16) :=
  match units.span isSchemeUnit with
  | (unit :: more, 0x3A :: rest) => some (unit :: more, rest)
  | _ => none

def isPath (units : List UInt16) : Bool :=
  !units.isEmpty && !units.any isLineEnd

/-- The authority that stands between two slashes and a third one, in front of a path. -/
def authority? (units : List UInt16) : Option (List UInt16) :=
  match units with
  | 0x2F :: 0x2F :: rest =>
    match rest.span (· ≠ 0x2F) with
    | (authority, _ :: path) => if isPath path then some authority else none
    | _ => none
  | _ => none

/-- Whether a path is left of units, with an authority or without. -/
def leavesPath (units : List UInt16) : Bool :=
  (authority? units).isSome || isPath units

/-- The scheme of a target that has one in front of a path, and what follows the scheme. -/
def schemeAndRest? (target : Text) : Option (List UInt16 × List UInt16) :=
  (splitScheme? target.units).filter fun split => leavesPath split.2

def scheme? (target : Text) : Option (List UInt16) :=
  (schemeAndRest? target).map (·.1)

def isReadable (target : Text) : Bool :=
  (scheme? target).isSome || leavesPath target.units

/-- Whether the scheme of a target can be used. One that nothing is known of is taken for a part
of the path, but the names of common entries are known. -/
def isUsable (target : Text) : Bool :=
  !(scheme? target).any fun scheme =>
    Contract.commonNames.any fun name => (Text.ofString name).units = scheme

/-- The server that a target wants its host looked up by: the authority behind the scheme for names
of hosts. -/
def nameServer? (target : Text) : Option Text :=
  match schemeAndRest? target with
  | some (scheme, rest) =>
    if scheme = (Text.ofString "dns").units then
      ((authority? rest).filter fun authority => !authority.isEmpty).map Text.mk
    else none
  | none => none

end Target

/-- The target of a connection, if it can be made. Nothing is sent before the first call, but a
server that names are looked up by must have an address. -/
def connect (host : Text) (port : Int) : Except Failure Text :=
  let target := target host port
  if !Target.isReadable target then .error (.unreadableTarget target)
  else if !Target.isUsable target then .error .unusableScheme
  else
    match Target.nameServer? target with
    | some server =>
      if Address.isServer server.toChars then .ok target else .error (.invalidAddress server)
    | none => .ok target

end NodeConsole.Rpc
