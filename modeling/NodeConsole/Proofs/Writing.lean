import Mathlib.Tactic.IntervalCases
import NodeConsole.Json.Writer
import NodeConsole.Proofs.DocumentReading
import NodeConsole.Proofs.Fields
import NodeConsole.Proofs.TextCoding
import NodeConsole.Proofs.WholeNumbers

/-!
Writing a value over several lines gives a JSON document, and reading the text gives the value back
(`ofText?_indented`). So it is for every value that has a written form of its own: whatever its
texts are, with whole numbers below 2^53 and with names that come once in an object.
-/

namespace NodeConsole

namespace Text

/-- The items of a text are made of its units, also where halves of pairs stand alone. -/
theorem single_units (unit : UInt16) : (single unit).units = [unit] := by
  rw [single]
  split
  · rfl
  next paired =>
    have bound := unit.toNat_lt
    rw [Bool.or_eq_true, isHigh_iff, isLow_iff] at paired
    have valid : unit.toNat.isValidChar := by
      rw [Nat.isValidChar]
      omega
    have value : (Char.ofNat unit.toNat).toNat = unit.toNat := by
      rw [Char.ofNat, dif_pos valid]
      rfl
    rw [Item.units, ofChar, value, if_pos (by omega)]
    exact congrArg (fun unit => [unit]) (UInt16.ofNat_toNat)

theorem joined_units {high low : UInt16} (isHigh : isHigh high = true) (isLow : isLow low = true) :
    ofChar (joined high low) = [high, low] := by
  rw [isHigh_iff] at isHigh
  rw [isLow_iff] at isLow
  have valid : (0x10000 + (high.toNat - 0xD800) * 0x400 + (low.toNat - 0xDC00)).isValidChar := by
    rw [Nat.isValidChar]
    omega
  have value : (joined high low).toNat =
      0x10000 + (high.toNat - 0xD800) * 0x400 + (low.toNat - 0xDC00) := by
    rw [joined, Char.ofNat, dif_pos valid]
    rfl
  have first : 0xD800 + ((joined high low).toNat - 0x10000) / 0x400 = high.toNat := by omega
  have second : 0xDC00 + ((joined high low).toNat - 0x10000) % 0x400 = low.toNat := by omega
  rw [ofChar, if_neg (by omega)]
  simp only [first, second]
  exact congrArg₂ (fun high low => [high, low]) UInt16.ofNat_toNat UInt16.ofNat_toNat

theorem itemsFrom_units (done : List Item) (units : List UInt16) :
    (itemsFrom done units).flatMap Item.units = done.reverse.flatMap Item.units ++ units := by
  induction done, units using itemsFrom.induct with
  | case1 done => simp [itemsFrom]
  | case2 done unit => simp [itemsFrom, single_units]
  | case3 done unit next rest pair ih =>
      obtain ⟨high, low⟩ := Bool.and_eq_true_iff.mp pair
      rw [itemsFrom, if_pos pair, ih]
      simp [Item.units, joined_units high low]
  | case4 done unit next rest alone ih =>
      rw [itemsFrom, if_neg alone, ih]
      simp [single_units]

theorem items_units (text : Text) : text.items.flatMap Item.units = text.units :=
  itemsFrom_units [] text.units

end Text

namespace Json

theorem digitValue?_hexDigit {digit : Nat} (small : digit < 16) :
    digitValue? 16 (hexDigit digit) = some digit := by
  interval_cases digit <;> rfl

theorem unitEscape_written {unit : UInt16} {code : Nat} (same : code = unit.toNat) :
    StringItem [unit] (unitEscape code) := by
  have digit (place : Nat) :
      digitValue? 16 (hexDigit (code / place % 16)) = some (code / place % 16) :=
    digitValue?_hexDigit (Nat.mod_lt _ (by decide))
  have last : digitValue? 16 (hexDigit (code % 16)) = some (code % 16) :=
    digitValue?_hexDigit (Nat.mod_lt _ (by decide))
  have row : HexDigits [hexDigit (code / 0x1000 % 16), hexDigit (code / 0x100 % 16),
      hexDigit (code / 0x10 % 16), hexDigit (code % 16)] := by
    simp [HexDigits, digit, last]
  have value : (digitsValue 16 [hexDigit (code / 0x1000 % 16), hexDigit (code / 0x100 % 16),
      hexDigit (code / 0x10 % 16), hexDigit (code % 16)]).toUInt16 = unit := by
    have bound := unit.toNat_lt
    simp only [digitsValue, List.foldl_cons, List.foldl_nil, digit, last, Option.getD_some]
    rw [← UInt16.toNat_inj, Nat.toUInt16, UInt16.toNat_ofNat']
    omega
  exact value ▸ .code row

theorem escape_written {char mark : Char} {unit : UInt16} (units : Text.ofChar char = [unit])
    (known : (mark, unit) ∈ escapes) : StringItem (Text.ofChar char) ['\\', mark] :=
  units ▸ .escape known

theorem plainText_written {char : Char} (noQuote : char ≠ '"') (noBackslash : char ≠ '\\') :
    StringItem (Text.ofChar char)
      (if char.toNat < 0x20 then unitEscape char.toNat else [char]) := by
  split
  next control =>
    have small : char.toNat < 0x10000 := by omega
    rw [Text.ofChar, if_pos small]
    apply unitEscape_written
    rw [Nat.toUInt16, UInt16.toNat_ofNat']
    omega
  next plain => exact .plain (Nat.le_of_not_lt plain) noQuote noBackslash

theorem itemText_written (item : Text.Item) : StringItem item.units (itemText item) := by
  unfold itemText
  split
  · exact unitEscape_written rfl
  · exact escape_written rfl (by decide)
  · exact escape_written rfl (by decide)
  · exact escape_written rfl (by decide)
  · exact escape_written rfl (by decide)
  · exact escape_written rfl (by decide)
  · exact escape_written rfl (by decide)
  · exact escape_written rfl (by decide)
  next noQuote noBackslash _ _ _ _ _ => exact plainText_written noQuote noBackslash

theorem stringText_written (text : Text) : Quoted text (stringText text).toList := by
  have items : StringItems text.units (text.items.flatMap itemText) := by
    rw [← text.items_units]
    induction text.items with
    | nil => exact .nil
    | cons item rest ih =>
        rw [List.flatMap_cons, List.flatMap_cons]
        exact .cons (itemText_written item) ih
  rw [stringText, String.toList_ofList]
  exact .intro items

/-- A value that has a written form of its own: nothing in it is absent, its numbers are whole ones
below 2^53, and no name comes twice in an object. -/
inductive Plain : Value → Prop
  | null : Plain .null
  | bool (flag : Bool) : Plain (.bool flag)
  | number {count : Nat} (small : count < 2 ^ 53) : Plain (.ofInt count)
  | string (text : Text) : Plain (.string text)
  | array {items : List Value} (plain : ∀ item ∈ items, Plain item) : Plain (.array items)
  | object {fields : Fields} (once : (fields.map (·.1)).Nodup)
      (plain : ∀ field ∈ fields, Plain field.2) : Plain (.object fields)

theorem Plain.present {value : Value} (plain : Plain value) : value ≠ .absent := by
  cases plain <;> nofun

def lineEnd (margin : Nat) : List Char :=
  '\n' :: List.replicate margin ' '

theorem blank_lineEnd (margin : Nat) : Blank (lineEnd margin) := by
  intro char listed
  rcases List.mem_cons.mp listed with rfl | listed
  · decide
  · rw [List.eq_of_mem_replicate listed]
    decide

theorem bracketed_toList (left right : String) (margin : Nat) {parts : List String}
    (some : parts ≠ []) :
    (bracketed left right margin parts).toList = left.toList ++
      ([','].intercalate (parts.map fun part => lineEnd (margin + 2) ++ part.toList) ++
        lineEnd margin) ++ right.toList := by
  rw [bracketed, if_neg (by simpa using some)]
  simp [lineEnd, String.toList_intercalate, Function.comp_def]

theorem indentedItems_eq (margin : Nat) (done : List String) (items : List Value) :
    indentedItems margin done items = done.reverse ++ items.map (Value.indentedFrom margin) := by
  induction items generalizing done with
  | nil => simp [indentedItems]
  | cons item rest ih => simp [indentedItems, ih]

def fieldText (margin : Nat) (field : Text × Value) : String :=
  stringText field.1 ++ ": " ++ field.2.indentedFrom margin

theorem indentedFields_eq (margin : Nat) (done : List String) {fields : Fields}
    (present : ∀ field ∈ fields, field.2 ≠ .absent) :
    indentedFields margin done fields = done.reverse ++ fields.map (fieldText margin) := by
  induction fields generalizing done with
  | nil => simp [indentedFields]
  | cons field rest ih =>
      obtain ⟨here, restPresent⟩ := List.forall_mem_cons.mp present
      obtain ⟨name, value⟩ := field
      rw [indentedFields, ih _ restPresent]
      · simp [fieldText]
      · exact here

section Parts

variable {before after : List Char} (write : Value → List Char)
variable (blankBefore : Blank before) (blankAfter : Blank after)

include blankBefore blankAfter

theorem items_written {items : List Value} (some : items ≠ [])
    (each : ∀ item ∈ items, ∃ document : Document,
      document.value = item ∧ Written document (write item)) :
    ∃ documents, Document.values documents = items ∧ ItemsWritten documents
      ([','].intercalate (items.map fun item => before ++ write item) ++ after) := by
  induction items with
  | nil => exact (some rfl).elim
  | cons item rest ih =>
      obtain ⟨⟨document, rfl, written⟩, restEach⟩ := List.forall_mem_cons.mp each
      cases rest with
      | nil =>
          refine ⟨[document], rfl, ?_⟩
          have spaced := Spaced.intro blankBefore written blankAfter
          simpa using ItemsWritten.last spaced
      | cons next rest =>
          obtain ⟨documents, same, more⟩ := ih (List.cons_ne_nil next rest) restEach
          refine ⟨document :: documents, congrArg _ same, ?_⟩
          have spaced := Spaced.intro blankBefore written blank_nil
          rw [List.append_nil] at spaced
          simpa [List.intercalate_cons_cons] using ItemsWritten.cons spaced more

theorem members_written {fields : Fields} (some : fields ≠ [])
    (each : ∀ field ∈ fields, ∃ document : Document,
      document.value = field.2 ∧ Written document (write field.2)) :
    ∃ members : List (Text × Document),
      (members.map fun member => (member.1, member.2.value)) = fields ∧ MembersWritten members
        ([','].intercalate (fields.map fun field =>
          before ++ ((stringText field.1).toList ++ ':' :: ' ' :: write field.2)) ++ after) := by
  induction fields with
  | nil => exact (some rfl).elim
  | cons field rest ih =>
      obtain ⟨name, value⟩ := field
      obtain ⟨⟨document, valued, written⟩, restEach⟩ := List.forall_mem_cons.mp each
      have space : Blank [' '] := by simp [Blank]
      have member {behind : List Char} (blank : Blank behind) :=
        MemberWritten.intro blankBefore (stringText_written name) blank_nil
          (.intro space written blank)
      cases rest with
      | nil =>
          refine ⟨[(name, document)], by simpa using valued, ?_⟩
          simpa using MembersWritten.last (member blankAfter)
      | cons next rest =>
          obtain ⟨members, same, more⟩ := ih (List.cons_ne_nil next rest) restEach
          refine ⟨(name, document) :: members, by simpa using ⟨valued, same⟩, ?_⟩
          have alone := member blank_nil
          simpa [List.intercalate_cons_cons] using MembersWritten.cons alone more

end Parts

theorem fieldText_toList (margin : Nat) (field : Text × Value) :
    (fieldText margin field).toList =
      (stringText field.1).toList ++ ':' :: ' ' :: (field.2.indentedFrom margin).toList := by
  simp [fieldText]

theorem Plain.written {value : Value} (plain : Plain value) (margin : Nat) :
    ∃ document : Document, document.value = value ∧
      Written document (value.indentedFrom margin).toList := by
  induction plain generalizing margin with
  | null =>
      rw [Value.indentedFrom]
      exact ⟨.null, rfl, .null⟩
  | bool flag =>
      refine ⟨.bool flag, rfl, ?_⟩
      rw [Value.indentedFrom]
      cases flag with
      | false => exact .isFalse
      | true => exact .isTrue
  | @number count small =>
      obtain ⟨decimal, numeral, value⟩ := numeral_natCast small
      refine ⟨.number (count : Int), ?_, ?_⟩
      · exact congrArg Value.number (Binary64.round_intCast small)
      · have written := Written.number numeral
        rw [value] at written
        exact written
  | string text =>
      rw [Value.indentedFrom]
      exact ⟨.string text, rfl, .string (stringText_written text)⟩
  | @array items _ ih =>
      rw [Value.indentedFrom, indentedItems_eq, List.reverse_nil, List.nil_append]
      by_cases none : items = []
      · subst none
        have text : (bracketed "[" "]" margin []).toList = ['[', ']'] := by
          simp [bracketed]
        exact ⟨.array [], rfl, text ▸ .emptyArray blank_nil⟩
      · obtain ⟨documents, same, written⟩ := items_written _ (blank_lineEnd (margin + 2))
          (blank_lineEnd margin) none fun item listed => ih item listed (margin + 2)
        refine ⟨.array documents, congrArg Value.array same, ?_⟩
        rw [bracketed_toList _ _ _ (by simpa using none), List.map_map]
        exact .array written
  | @object fields once plain ih =>
      have present (field : Text × Value) (listed : field ∈ fields) : field.2 ≠ .absent :=
        (plain field listed).present
      rw [Value.indentedFrom, indentedFields_eq _ _ present, List.reverse_nil,
        List.nil_append]
      by_cases none : fields = []
      · subst none
        have text : (bracketed "\x7b" "\x7d" margin []).toList = ['\x7b', '\x7d'] := by
          simp [bracketed]
        exact ⟨.object [], rfl, text ▸ .emptyObject blank_nil⟩
      · obtain ⟨members, rfl, written⟩ := members_written
          (fun value => (value.indentedFrom (margin + 2)).toList)
          (blank_lineEnd (margin + 2)) (blank_lineEnd margin) none
          fun field listed => ih field listed (margin + 2)
        have fields : Document.fieldsFrom [] members =
            members.map fun member => (member.1, member.2.value) :=
          (Document.fieldsFrom_eq members).trans (Fields.overlay_once (List.nil_append _ ▸ once))
        refine ⟨.object members, congrArg Value.object fields, ?_⟩
        rw [bracketed_toList _ _ _ (by simpa using none), List.map_map]
        simp only [Function.comp_def, fieldText_toList]
        exact .object written

/-- What is written of a plain value is read as that value. -/
theorem ofText?_indented {value : Value} (plain : Plain value) :
    Value.ofText? value.indented = some value := by
  obtain ⟨document, same, written⟩ := plain.written 0
  refine Value.ofText?_eq_some_iff.mpr ⟨document, ?_, same⟩
  have spaced := Spaced.intro blank_nil written blank_nil
  rwa [List.nil_append, List.append_nil] at spaced

end Json

end NodeConsole
