import NodeConsole.Text.Utf8
import NodeConsole.Wire.Varint

/-!
Messages of which field number one, a text, is the only field that is known. A message is a run of
fields, each led by a number that holds the field's own number and, in the low three bits, the
kind of its content. Fields with another number are passed over.
-/

namespace NodeConsole.Wire

def textField (content : List UInt8) : List UInt8 :=
  0x0A :: varint content.length ++ content

/-- Texts of fewer units are written with the halves of surrogate pairs that stand alone in them,
in longer ones these are replaced. -/
def replacingLength : Nat := 40

def textContent (text : Text) : List UInt8 :=
  if text.units.length < replacingLength then Utf8.encodeItems text.items
  else Utf8.encode text.toChars

/-- How deep a part of a group may lie that is passed over. -/
def depthLimit : Nat := 100

mutual

/-- What follows the content of a field of the given kind: a number, eight bytes, bytes with their
count in front, a group up to its end mark, or four bytes. The depth is the number of groups that
the field lies in. -/
def skipContent? : Nat → Nat → Nat → List UInt8 → Option (List UInt8)
  | 0, _, _, _ => none
  | fuel + 1, depth, kind, bytes =>
    if depthLimit < depth then none
    else
      match kind with
      | 0 => skipVarint? bytes
      | 1 => skip? 8 bytes
      | 2 => (readWord? bytes).bind fun (count, rest) => skip? count rest
      | 3 => skipGroup? fuel (depth + 1) bytes
      | 5 => skip? 4 bytes
      | _ => none

/-- What follows the end mark of a group whose fields lie at the given depth. -/
def skipGroup? : Nat → Nat → List UInt8 → Option (List UInt8)
  | 0, _, _ => none
  | fuel + 1, depth, bytes =>
    match readWord? bytes with
    | none => none
    | some (lead, rest) =>
      if lead % 8 = 4 then some rest
      else
        match skipContent? fuel depth (lead % 8) rest with
        | none => none
        | some after => skipGroup? fuel depth after

end

/-- Reads fields up to the end, with `fuel` above the number of bytes; `done` holds the contents
of the known field, last first. Its content is a count and bytes whatever its lead says of its
kind, and where fewer bytes are left than the count says, they are all there is. -/
def readTexts? : Nat → List (List UInt8) → List UInt8 → Option (List (List UInt8))
  | 0, _, _ => none
  | _ + 1, done, [] => some done.reverse
  | fuel + 1, done, byte :: more =>
    match readWord? (byte :: more) with
    | none => none
    | some (lead, rest) =>
      if lead / 8 = 1 then
        match readWord? rest with
        | none => none
        | some (count, content) =>
          readTexts? fuel (content.take count :: done) (content.drop count)
      else
        match skipContent? (rest.length + 1) 0 (lead % 8) rest with
        | none => none
        | some after => readTexts? fuel done after

def texts? (message : List UInt8) : Option (List (List UInt8)) :=
  readTexts? (message.length + 1) [] message

end NodeConsole.Wire
