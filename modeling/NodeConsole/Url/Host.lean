import NodeConsole.Address
import NodeConsole.Text.Percent
import NodeConsole.Url.Domain

/-!
Hosts: names, addresses of four numbers, and addresses of eight 16-bit pieces between brackets.
-/

namespace NodeConsole.Url

inductive Host where
  | domain (name : List Char)
  | ipv4 (address : Nat)
  | ipv6 (pieces : List Nat)
  /-- The host of a scheme whose hosts follow no rules of their own. -/
  | unruled (text : List Char)
deriving DecidableEq, Repr

def isForbiddenInHost (char : Char) : Bool :=
  ['\x00', '\t', '\n', '\r', ' ', '#', '/', ':', '<', '>', '?', '@', '[', '\\', ']', '^',
    '|'].contains char

def isForbiddenInDomain (char : Char) : Bool :=
  isForbiddenInHost char || char.toNat < 0x20 || char = '%' || char = '\x7F'

/-- One part of an address of four numbers: hexadecimal, octal or decimal. -/
def ipv4Number? (text : List Char) : Option Nat :=
  let (base, digits) := match text with
    | '0' :: 'x' :: rest => (16, rest)
    | '0' :: 'X' :: rest => (16, rest)
    | '0' :: next :: rest => (8, next :: rest)
    | other => (10, other)
  if text.isEmpty then none
  else if digits.all fun digit => (digitValue? base digit).isSome then
    some (digitsValue base digits)
  else none

/-- The parts of a name between dots, without an empty one at the end. -/
def dottedParts (name : List Char) : List (List Char) :=
  let parts := name.splitOn '.'
  if 1 < parts.length ∧ parts.getLast? = some [] then parts.dropLast else parts

/-- Whether the last part of a name is a number, so that the name must be an address. -/
def endsInNumber (name : List Char) : Bool :=
  match name.splitOn '.' with
  | [[]] => false
  | _ =>
    match (dottedParts name).getLast? with
    | some last => (!last.isEmpty && last.all isDigit) || (ipv4Number? last).isSome
    | none => false

/-- The address that up to four numbers spell; the last one fills what the others leave. -/
def ipv4Address? (numbers : List Nat) : Option Nat :=
  match numbers.reverse with
  | [] => none
  | last :: before =>
    if 4 < numbers.length || before.any (fun number => 255 < number)
        || Nat.pow 256 (5 - numbers.length) ≤ last then none
    else
      let leading := before.reverse.zipIdx.map fun (number, index) =>
        number * Nat.pow 256 (3 - index)
      some (last + leading.foldl (· + ·) 0)

def ipv4? (name : List Char) : Option Nat :=
  ((dottedParts name).mapM ipv4Number?).bind ipv4Address?

/-- The host that a text names. A `special` scheme has domains and addresses, in which escapes stand
for bytes of UTF-8; others take any text without delimiters. -/
def host? (special : Bool) (text : List Char) : Option Host :=
  match text with
  | '[' :: rest =>
    match rest.getLast? with
    | some ']' => (Address.pieces? rest.dropLast).map .ipv6
    | _ => none
  | _ =>
    if special then do
      let name ← domain? (← Utf8.decode? (Percent.decode text))
      if name.any isForbiddenInDomain then none
      else if endsInNumber name then (ipv4? name).map .ipv4
      else some (.domain name)
    else if text.any isForbiddenInHost then none
    else some (.unruled text)

end NodeConsole.Url
