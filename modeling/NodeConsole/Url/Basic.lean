import NodeConsole.Form
import NodeConsole.Url.Host
import NodeConsole.Url.Path

/-!
URLs: reading an absolute one, and reading a reference against a base. Of a URL the scheme, the
host, the path and the query are kept; user names, ports and fragments are read and dropped.
-/

namespace NodeConsole

namespace Url

/-- The path behind a host, or the text of a URL that has neither. -/
inductive Location where
  | segments (path : List (List Char))
  | text (content : List Char)
deriving DecidableEq, Repr

end Url

structure Url where
  scheme : List Char
  host : Option Url.Host := none
  location : Url.Location
  query : Option (List Char) := none
deriving DecidableEq, Repr

namespace Url

/-- The segments of the path; a text has none. -/
def segments (url : Url) : List (List Char) :=
  match url.location with
  | .segments path => path
  | .text _ => []

def isSpecial (scheme : List Char) : Bool :=
  ["ftp", "file", "http", "https", "ws", "wss"].any fun name => name.toList = scheme

def isSpaceOrControl (char : Char) : Bool :=
  char.toNat ≤ 0x20

/-- A text without spaces and controls at its ends and without tabs and line ends anywhere. -/
def strip (text : List Char) : List Char :=
  let trimmed := ((text.dropWhile isSpaceOrControl).reverse.dropWhile isSpaceOrControl).reverse
  trimmed.filter fun char => !(['\t', '\n', '\r'].contains char)

/-- The scheme in front of a colon, in small letters, and what follows the colon. -/
def splitScheme? (text : List Char) : Option (List Char × List Char) :=
  let isSchemeChar (char : Char) : Bool :=
    isLetter char || isDigit char || ['+', '-', '.'].contains char
  match text.span isSchemeChar with
  | (first :: more, ':' :: rest) =>
    if isLetter first then some (lower (first :: more), rest) else none
  | _ => none

def withoutFragment (text : List Char) : List Char :=
  text.takeWhile (· ≠ '#')

def splitQuery (special : Bool) (text : List Char) : List Char × Option (List Char) :=
  match (withoutFragment text).span (· ≠ '?') with
  | (before, _ :: query) => (before, some (Percent.encode (isEscapedInQuery special) query))
  | (before, []) => (before, none)

/-- The part of an authority behind the last at sign; none when user names have no host. -/
def hostPort? (authority : List Char) : Option (List Char) :=
  if authority.contains '@' then
    let found := (authority.reverse.takeWhile (· ≠ '@')).reverse
    if found.isEmpty then none else some found
  else some authority

/-- Splits a host from its port at the first colon that is not between brackets; `done` holds the
host's text, last first. -/
def splitPort (bracketed : Bool) (done : List Char) : List Char → List Char × Option (List Char)
  | [] => (done.reverse, none)
  | char :: rest =>
    if char = ':' ∧ !bracketed then (done.reverse, some rest)
    else
      let inside := if char = '[' then true else if char = ']' then false else bracketed
      splitPort inside (char :: done) rest

def isPort (text : List Char) : Bool :=
  text.all isDigit && digitsValue 10 text ≤ 65535

/-- The host of an authority, which must have a text where the scheme is special or a port
follows. -/
def authorityHost? (special : Bool) (authority : List Char) : Option Host := do
  let text ← hostPort? authority
  match splitPort false [] text with
  | (name, none) =>
    if name.isEmpty && special then none
    else host? special name
  | (name, some port) =>
    if name.isEmpty || !isPort port then none
    else host? special name

def readPath (special file : Bool) (start : List (List Char)) (text : List Char) :
    Location × Option (List Char) :=
  let (path, query) := splitQuery special text
  (.segments (extend special file start path), query)

/-- Reads the path where one may start with a slash. Without a path a special URL has one empty
segment, another has none. -/
def readPathStart (special file : Bool) (text : List Char) : Location × Option (List Char) :=
  let (path, _) := splitQuery special text
  match path with
  | [] =>
    let (_, query) := splitQuery special text
    (.segments (if special then [[]] else []), query)
  | first :: _ =>
    readPath special file [] (if isSlash special first then text.drop 1 else text)

def readAuthority? (scheme text : List Char) : Option Url :=
  let special := isSpecial scheme
  let (authority, rest) := text.span fun char => !(isSlash special char || char = '?' || char = '#')
  (authorityHost? special authority).map fun host =>
    let (location, query) := readPathStart special false rest
    { scheme, host := some host, location, query }

/-- The path of a file whose host is in the text; a drive in the place of a host starts the
path. -/
def readFileHost? (text : List Char) : Option Url :=
  let scheme := "file".toList
  let (name, rest) := text.span fun char => !(isSlash true char || char = '?' || char = '#')
  if isDrive name then
    let (location, query) := readPath true true [] text
    some { scheme, host := none, location, query }
  else
    let host := if name.isEmpty then some none else (host? true name).map some
    host.map fun host =>
      let (location, query) := readPathStart true true rest
      { scheme, host, location, query }

def readFile? (text : List Char) : Option Url :=
  match text with
  | first :: second :: rest =>
    if isSlash true first ∧ isSlash true second then readFileHost? rest
    else some (hostless (if isSlash true first then second :: rest else text))
  | [only] => some (hostless (if isSlash true only then [] else text))
  | [] => some (hostless [])
where
  hostless (text : List Char) : Url :=
    let (location, query) := readPath true true [] text
    { scheme := "file".toList, location, query }

/-- Reads a reference without a scheme against a base, whose scheme must be special and not that
of files. -/
def readRelative? (base : Url) (text : List Char) : Option Url :=
  match text with
  | first :: second :: rest =>
    if isSlash true first && isSlash true second then
      readAuthority? base.scheme (rest.dropWhile (isSlash true))
    else if isSlash true first then some (rooted (second :: rest))
    else some (unrooted text)
  | [only] => some (if isSlash true only then rooted [] else unrooted text)
  | [] => some base
where
  rooted (text : List Char) : Url :=
    let (location, query) := readPath true false [] text
    { base with location, query }
  unrooted (text : List Char) : Url :=
    let (path, query) := splitQuery true text
    if path.isEmpty then { base with query := query.or base.query }
    else
      let (location, _) := readPath true false (leave false base.segments) text
      { base with location, query }

/-- Reads what follows the scheme of a URL. A special scheme may be the base's own, so that a
reference follows. -/
def readAfterScheme? (base : Option Url) (scheme text : List Char) : Option Url :=
  if scheme = "file".toList then readFile? text
  else if isSpecial scheme then
    match text, base.filter fun url => url.scheme = scheme with
    | '/' :: '/' :: _, _ => readAuthority? scheme (text.dropWhile (isSlash true))
    | _, some url => readRelative? url text
    | _, none => readAuthority? scheme (text.dropWhile (isSlash true))
  else
    match text with
    | '/' :: '/' :: rest => readAuthority? scheme rest
    | '/' :: rest =>
      let (location, query) := readPath false false [] rest
      some { scheme, location, query }
    | _ =>
      let (content, query) := splitQuery false text
      some { scheme, location := .text (Percent.encode isControl content), query }

/-- Reads a URL. A text without a scheme is a reference to a base, as `readRelative?` wants it. -/
def read? (base : Option Url) (text : String) : Option Url :=
  let stripped := strip text.toList
  match splitScheme? stripped with
  | some (scheme, rest) => readAfterScheme? base scheme rest
  | none => base.bind fun url => readRelative? url stripped

def pathname (url : Url) : String :=
  match url.location with
  | .segments path => String.ofList (path.flatMap fun segment => '/' :: segment)
  | .text content => String.ofList content

def parameters (url : Url) : Form :=
  match url.query with
  | some query => Form.ofChars ('?' :: query)
  | none => ⟨[]⟩

end Url

end NodeConsole
