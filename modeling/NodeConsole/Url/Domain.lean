import NodeConsole.Unicode.Composition
import NodeConsole.Unicode.NameStatus
import NodeConsole.Url.Label
import NodeConsole.Url.Punycode

/-!
Domain names. Every character is replaced by those that stand for it in a name, the text is brought
into its composed form, and the labels between the dots are checked. A name is only accepted or
refused here: letters keep their script and are not written out in ASCII.
-/

namespace NodeConsole.Url

def isAscii (code : Nat) : Bool :=
  code < 0x80

/-- A name in the form in which names are compared; none if it has a character that no name may
have, or no other ones. In ASCII only the case of letters matters. -/
def plainName? (name : List Char) : Option (List Nat) :=
  let codes := name.map (·.toNat)
  let form :=
    if codes.all isAscii then some (name.map fun char => char.toLower.toNat)
    else (Unicode.mapName? codes).map Unicode.composedForm
  form.filter fun found => !found.isEmpty

def writtenLabel? (label : List Nat) : Option (List Nat) :=
  let mark := "xn--".toList.map (·.toNat)
  if mark.isPrefixOf label then some (label.drop mark.length) else none

def isWrittenForm (text : List Nat) : Bool :=
  match Punycode.decode? (text.map Char.ofNat) with
  | none => false
  | some label =>
    Unicode.mapName? label = some label && Unicode.composedForm label = label &&
      Label.isValid label

def isGoodLabel (label : List Nat) : Bool :=
  match writtenLabel? label with
  | some text => text.all isAscii && isWrittenForm text
  | none => label.all isAscii || Label.isValid label

def domain? (name : List Char) : Option (List Char) := do
  let plain ← plainName? name
  if (plain.splitOn '.'.toNat).all isGoodLabel then some (plain.map Char.ofNat) else none

end NodeConsole.Url
