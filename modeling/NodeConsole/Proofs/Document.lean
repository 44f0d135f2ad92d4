import NodeConsole.Json.Value
import NodeConsole.Number.Numeral

/-!
JSON documents apart from any reader: what is written, as a tree with exact numbers and all members
of an object; the texts that write it, by the grammar of RFC 8259; and the value that it denotes.
-/

namespace NodeConsole.Json

/-- What a document says. Numbers are exact, and the members of an object are those that are
written, in their order, with names that come twice. -/
inductive Document where
  | null
  | bool (flag : Bool)
  | number (value : Rat)
  | string (text : Text)
  | array (items : List Document)
  | object (members : List (Text × Document))

namespace Document

mutual

/-- The value of a document: numbers are rounded to binary64, and of members with one name the last
one counts. -/
def value : Document → Value
  | .null => .null
  | .bool flag => .bool flag
  | .number value => .number (Binary64.round value)
  | .string text => .string text
  | .array items => .array (values items)
  | .object members => .object (fieldsFrom [] members)

def values : List Document → List Value
  | [] => []
  | item :: rest => item.value :: values rest

def fieldsFrom (done : Fields) : List (Text × Document) → Fields
  | [] => done
  | (name, member) :: rest => fieldsFrom (done.put name member.value) rest

end

end Document

def Blank (chars : List Char) : Prop :=
  ∀ char ∈ chars, char ∈ [' ', '\t', '\n', '\r']

theorem blank_nil : Blank [] :=
  List.forall_mem_nil _

def Digits (chars : List Char) : Prop :=
  chars ≠ [] ∧ ∀ char ∈ chars, isDigit char = true

inductive Whole : List Char → Prop
  | zero : Whole ['0']
  | digits {first : Char} {rest : List Char} (digits : Digits (first :: rest))
      (notZero : first ≠ '0') : Whole (first :: rest)

inductive Fraction : List Char → List Char → Prop
  | none : Fraction [] []
  | digits {digits : List Char} (row : Digits digits) : Fraction digits ('.' :: digits)

inductive Exponent : Int → List Char → Prop
  | none : Exponent 0 []
  | unsigned {mark : Char} {digits : List Char} (marks : mark ∈ ['e', 'E']) (row : Digits digits) :
      Exponent (digitsValue 10 digits) (mark :: digits)
  | plus {mark : Char} {digits : List Char} (marks : mark ∈ ['e', 'E']) (row : Digits digits) :
      Exponent (digitsValue 10 digits) (mark :: '+' :: digits)
  | minus {mark : Char} {digits : List Char} (marks : mark ∈ ['e', 'E']) (row : Digits digits) :
      Exponent (-(digitsValue 10 digits : Int)) (mark :: '-' :: digits)

inductive NumeralWritten : Decimal → List Char → Prop
  | positive {whole fraction fractionChars exponentChars : List Char} {exponent : Int}
      (wholePart : Whole whole) (fractionPart : Fraction fraction fractionChars)
      (exponentPart : Exponent exponent exponentChars) :
      NumeralWritten { negative := false, whole, fraction, exponent }
        (whole ++ (fractionChars ++ exponentChars))
  | negative {whole fraction fractionChars exponentChars : List Char} {exponent : Int}
      (wholePart : Whole whole) (fractionPart : Fraction fraction fractionChars)
      (exponentPart : Exponent exponent exponentChars) :
      NumeralWritten { negative := true, whole, fraction, exponent }
        ('-' :: (whole ++ (fractionChars ++ exponentChars)))

def escapes : List (Char × UInt16) := [
  ('"', 0x22), ('\\', 0x5C), ('/', 0x2F), ('b', 0x08), ('f', 0x0C), ('n', 0x0A), ('r', 0x0D),
  ('t', 0x09)]

def HexDigits (chars : List Char) : Prop :=
  ∀ char ∈ chars, (digitValue? 16 char).isSome

inductive StringItem : List UInt16 → List Char → Prop
  | plain {char : Char} (noControl : 0x20 ≤ char.toNat) (noQuote : char ≠ '"')
      (noBackslash : char ≠ '\\') : StringItem (Text.ofChar char) [char]
  | escape {char : Char} {unit : UInt16} (known : (char, unit) ∈ escapes) :
      StringItem [unit] ['\\', char]
  | code {first second third fourth : Char} (digits : HexDigits [first, second, third, fourth]) :
      StringItem [(digitsValue 16 [first, second, third, fourth]).toUInt16]
        ['\\', 'u', first, second, third, fourth]

inductive StringItems : List UInt16 → List Char → Prop
  | nil : StringItems [] []
  | cons {units moreUnits : List UInt16} {chars moreChars : List Char}
      (item : StringItem units chars) (items : StringItems moreUnits moreChars) :
      StringItems (units ++ moreUnits) (chars ++ moreChars)

inductive Quoted : Text → List Char → Prop
  | intro {units : List UInt16} {chars : List Char} (items : StringItems units chars) :
      Quoted ⟨units⟩ ('"' :: (chars ++ ['"']))

mutual

inductive Written : Document → List Char → Prop
  | null : Written .null ['n', 'u', 'l', 'l']
  | isTrue : Written (.bool true) ['t', 'r', 'u', 'e']
  | isFalse : Written (.bool false) ['f', 'a', 'l', 's', 'e']
  | number {decimal : Decimal} {chars : List Char} (numeral : NumeralWritten decimal chars) :
      Written (.number decimal.value) chars
  | string {text : Text} {chars : List Char} (quoted : Quoted text chars) :
      Written (.string text) chars
  | emptyArray {blank : List Char} (isBlank : Blank blank) :
      Written (.array []) ('[' :: (blank ++ [']']))
  | array {items : List Document} {chars : List Char} (written : ItemsWritten items chars) :
      Written (.array items) ('[' :: (chars ++ [']']))
  | emptyObject {blank : List Char} (isBlank : Blank blank) :
      Written (.object []) ('\x7b' :: (blank ++ ['\x7d']))
  | object {members : List (Text × Document)} {chars : List Char}
      (written : MembersWritten members chars) :
      Written (.object members) ('\x7b' :: (chars ++ ['\x7d']))

inductive ItemsWritten : List Document → List Char → Prop
  | last {item : Document} {chars : List Char} (written : Spaced item chars) :
      ItemsWritten [item] chars
  | cons {item : Document} {items : List Document} {chars moreChars : List Char}
      (written : Spaced item chars) (more : ItemsWritten items moreChars) :
      ItemsWritten (item :: items) (chars ++ ',' :: moreChars)

inductive MemberWritten : Text → Document → List Char → Prop
  | intro {name : Text} {member : Document} {before nameChars after chars : List Char}
      (blankBefore : Blank before) (quoted : Quoted name nameChars) (blankAfter : Blank after)
      (written : Spaced member chars) :
      MemberWritten name member (before ++ (nameChars ++ (after ++ ':' :: chars)))

inductive MembersWritten : List (Text × Document) → List Char → Prop
  | last {name : Text} {member : Document} {chars : List Char}
      (written : MemberWritten name member chars) : MembersWritten [(name, member)] chars
  | cons {name : Text} {member : Document} {members : List (Text × Document)}
      {chars moreChars : List Char} (written : MemberWritten name member chars)
      (more : MembersWritten members moreChars) :
      MembersWritten ((name, member) :: members) (chars ++ ',' :: moreChars)

inductive Spaced : Document → List Char → Prop
  | intro {document : Document} {before chars after : List Char} (blankBefore : Blank before)
      (written : Written document chars) (blankAfter : Blank after) :
      Spaced document (before ++ (chars ++ after))

end

/-- Characters that need no escape may be written as they are. -/
theorem quoted_plain (text : String)
    (plain : text.toList.all (fun char => 0x20 ≤ char.toNat ∧ char ≠ '"' ∧ char ≠ '\\') = true) :
    Quoted text ('"' :: (text.toList ++ ['"'])) := by
  have items (chars : List Char)
      (plain : ∀ char ∈ chars, 0x20 ≤ char.toNat ∧ char ≠ '"' ∧ char ≠ '\\') :
      StringItems (chars.flatMap Text.ofChar) chars := by
    induction chars with
    | nil => exact .nil
    | cons char rest ih =>
        obtain ⟨⟨noControl, noQuote, noBackslash⟩, restPlain⟩ := List.forall_mem_cons.mp plain
        exact .cons (.plain noControl noQuote noBackslash) (ih restPlain)
  exact .intro (items text.toList fun char listed =>
    of_decide_eq_true (List.all_eq_true.mp plain char listed))

def Writes (text : String) (document : Document) : Prop :=
  Spaced document text.toList

end NodeConsole.Json
