import Mathlib.Data.List.TakeDrop
import Mathlib.Data.List.TakeWhile
import NodeConsole.Json.Token
import NodeConsole.Proofs.Document

/-!
The tokens that are read are the tokens that are written: a text starts with a token just when one
of the spellings of that token stands there and, for a numeral, nothing that would carry it on.
-/

namespace NodeConsole.Json

def StartsWith (test : Char → Prop) (text : List Char) : Prop :=
  ∀ char ∈ text.head?, test char

def NoDigit : List Char → Prop :=
  StartsWith fun char => isDigit char = false

/-- A text that does not carry on a numeral in front of it. -/
def Ends : List Char → Prop :=
  StartsWith fun char => isDigit char = false ∧ char ≠ '.' ∧ char ≠ 'e' ∧ char ≠ 'E'

theorem startsWith_cons {test : Char → Prop} {char : Char} {rest : List Char} :
    StartsWith test (char :: rest) ↔ test char := by
  simp [StartsWith]

theorem StartsWith.mono {test other : Char → Prop} {text : List Char}
    (starts : StartsWith test text) (weaker : ∀ char, test char → other char) :
    StartsWith other text :=
  fun char first => weaker char (starts char first)

section Numerals

variable {text rest digits whole fraction chars : List Char} {exponent : Int} {decimal : Decimal}

theorem span_digits (found : text.span isDigit = (digits, rest)) :
    text = digits ++ rest ∧ ∀ digit ∈ digits, isDigit digit = true := by
  rw [List.span_eq_takeWhile_dropWhile, Prod.mk.injEq] at found
  obtain ⟨rfl, rfl⟩ := found
  exact ⟨List.takeWhile_append_dropWhile.symm, List.all_eq_true.mp List.all_takeWhile⟩

theorem digits_span (row : ∀ digit ∈ digits, isDigit digit = true) (stops : NoDigit rest) :
    (digits ++ rest).span isDigit = (digits, rest) := by
  have none : rest.takeWhile isDigit = [] ∧ rest.dropWhile isDigit = rest := by
    cases rest with
    | nil => exact ⟨rfl, rfl⟩
    | cons char rest =>
        have other := startsWith_cons.mp stops
        simp [other]
  rw [List.span_eq_takeWhile_dropWhile, List.takeWhile_append_of_pos row,
    List.dropWhile_append_of_pos row, none.1, none.2, List.append_nil]

theorem readWhole?_sound (read : Token.readWhole? text = some (whole, rest)) :
    Whole whole ∧ text = whole ++ rest := by
  rw [Token.readWhole?] at read
  split at read
  · cases read
  next digits after notEmpty found =>
    obtain ⟨same, row⟩ := span_digits found
    split at read
    · cases read
    next sound =>
      cases read
      refine ⟨?_, same⟩
      cases whole with
      | nil => exact (notEmpty rfl).elim
      | cons first more =>
          by_cases zero : first = '0'
          · subst zero
            have lone : more = [] := by simpa using sound
            subst lone
            exact .zero
          · exact .digits ⟨List.cons_ne_nil _ _, row⟩ zero

theorem Whole.digits_row (written : Whole whole) : Digits whole := by
  cases written with
  | zero => exact ⟨List.cons_ne_nil _ _, List.all_eq_true.mp (by decide)⟩
  | digits row _ => exact row

theorem readWhole?_complete (written : Whole whole) (stops : NoDigit rest) :
    Token.readWhole? (whole ++ rest) = some (whole, rest) := by
  have found := digits_span written.digits_row.2 stops
  rw [Token.readWhole?, found]
  cases written with
  | zero => rfl
  | digits row notZero => simp [notZero]

theorem readFraction?_other (noPoint : StartsWith (· ≠ '.') text) :
    Token.readFraction? text = some ([], text) := by
  rw [Token.readFraction?]
  rintro rest rfl
  exact startsWith_cons.mp noPoint rfl

theorem readFraction?_sound (read : Token.readFraction? text = some (fraction, rest)) :
    ∃ chars, Fraction fraction chars ∧ text = chars ++ rest := by
  by_cases noPoint : StartsWith (· ≠ '.') text
  · rw [readFraction?_other noPoint] at read
    cases read
    exact ⟨[], .none, rfl⟩
  · obtain ⟨after, rfl⟩ : ∃ after, text = '.' :: after := by
      cases text with
      | nil => exact (noPoint nofun).elim
      | cons char after => exact ⟨after, by simpa [startsWith_cons] using noPoint⟩
    cases found : after.span isDigit with
    | mk digits behind =>
        simp only [Token.readFraction?, found] at read
        cases digits with
        | nil => cases read
        | cons first more =>
            cases read
            obtain ⟨rfl, row⟩ := span_digits found
            exact ⟨'.' :: first :: more, .digits ⟨List.cons_ne_nil _ _, row⟩, rfl⟩

theorem readFraction?_complete (written : Fraction fraction chars)
    (stops : StartsWith (fun char => isDigit char = false ∧ char ≠ '.') rest) :
    Token.readFraction? (chars ++ rest) = some (fraction, rest) := by
  cases written with
  | none => exact readFraction?_other (stops.mono fun _ => And.right)
  | digits row =>
      have found := digits_span row.2 (stops.mono fun _ => And.left)
      simp only [List.cons_append, Token.readFraction?, found]
      cases fraction with
      | nil => exact (row.1 rfl).elim
      | cons first more => rfl

theorem readExponent?_unmarked (unmarked : StartsWith (fun char => char ≠ 'e' ∧ char ≠ 'E') text) :
    Decimal.readExponent? text = some (0, text) := by
  rw [Decimal.readExponent?.eq_def]
  split
  · rfl
  next char rest =>
    have other := startsWith_cons.mp unmarked
    rw [if_neg (by simpa using other)]

inductive Signed : Bool → List Char → List Char → Prop
  | minus {rest : List Char} : Signed true ('-' :: rest) rest
  | plus {rest : List Char} : Signed false ('+' :: rest) rest
  | bare {text : List Char} (unsigned : StartsWith (fun char => char ≠ '-' ∧ char ≠ '+') text) :
      Signed false text text

theorem exists_signed (text : List Char) : ∃ negative rest, Signed negative text rest := by
  by_cases unsigned : StartsWith (fun char => char ≠ '-' ∧ char ≠ '+') text
  · exact ⟨false, text, .bare unsigned⟩
  · cases text with
    | nil => exact (unsigned nofun).elim
    | cons char rest =>
        by_cases minus : char = '-'
        · exact ⟨true, rest, minus ▸ .minus⟩
        · have plus : char = '+' := by simpa [startsWith_cons, minus] using unsigned
          exact ⟨false, rest, plus ▸ .plus⟩

def readPower? (negative : Bool) (text : List Char) : Option (Int × List Char) :=
  match text.span isDigit with
  | ([], _) => none
  | (digits, after) =>
    some (if negative then -(digitsValue 10 digits : Int) else digitsValue 10 digits, after)

theorem readExponent?_marked {mark : Char} {negative : Bool} (marks : mark ∈ ['e', 'E'])
    (sign : Signed negative text rest) :
    Decimal.readExponent? (mark :: text) = readPower? negative rest := by
  have isMark : mark = 'e' ∨ mark = 'E' := by simpa using marks
  rw [Decimal.readExponent?.eq_def]
  simp only [isMark, if_true]
  cases sign with
  | minus => rfl
  | plus => rfl
  | bare unsigned =>
      cases text with
      | nil => rfl
      | cons first more =>
          have other := startsWith_cons.mp unsigned
          simp only [List.cons.injEq, other, false_and, imp_self, implies_true, Bool.false_eq_true,
            if_false]
          rfl

theorem readExponent?_sound (read : Decimal.readExponent? text = some (exponent, rest)) :
    ∃ chars, Exponent exponent chars ∧ text = chars ++ rest := by
  by_cases unmarked : StartsWith (fun char => char ≠ 'e' ∧ char ≠ 'E') text
  · rw [readExponent?_unmarked unmarked] at read
    cases read
    exact ⟨[], .none, rfl⟩
  · obtain ⟨mark, after, rfl, marks⟩ : ∃ mark after, text = mark :: after ∧ mark ∈ ['e', 'E'] := by
      cases text with
      | nil => exact (unmarked nofun).elim
      | cons mark after =>
          rw [startsWith_cons] at unmarked
          exact ⟨mark, after, rfl, by simpa [Classical.or_iff_not_imp_left] using unmarked⟩
    obtain ⟨negative, unsigned, sign⟩ := exists_signed after
    rw [readExponent?_marked marks sign, readPower?] at read
    split at read
    · cases read
    next digits behind notEmpty found =>
      cases read
      obtain ⟨rfl, row⟩ := span_digits found
      have row : Digits digits := ⟨fun empty => notEmpty empty, row⟩
      cases sign with
      | minus => exact ⟨mark :: '-' :: digits, .minus marks row, rfl⟩
      | plus => exact ⟨mark :: '+' :: digits, .plus marks row, rfl⟩
      | bare => exact ⟨mark :: digits, .unsigned marks row, rfl⟩

theorem readExponent?_digits {mark : Char} {negative : Bool} (marks : mark ∈ ['e', 'E'])
    (row : Digits digits) (sign : Signed negative text (digits ++ rest)) (stops : NoDigit rest) :
    Decimal.readExponent? (mark :: text) =
      some (if negative then -(digitsValue 10 digits : Int) else digitsValue 10 digits, rest) := by
  rw [readExponent?_marked marks sign, readPower?, digits_span row.2 stops]
  cases digits with
  | nil => exact (row.1 rfl).elim
  | cons first more => rfl

theorem Digits.unsigned (row : Digits digits) (rest : List Char) :
    StartsWith (fun char => char ≠ '-' ∧ char ≠ '+') (digits ++ rest) := by
  cases digits with
  | nil => exact (row.1 rfl).elim
  | cons first more =>
      have digit := row.2 first List.mem_cons_self
      rw [List.cons_append, startsWith_cons]
      constructor
      · rintro rfl
        revert digit
        decide
      · rintro rfl
        revert digit
        decide

theorem readExponent?_complete (written : Exponent exponent chars)
    (stops : StartsWith (fun char => isDigit char = false ∧ char ≠ 'e' ∧ char ≠ 'E') rest) :
    Decimal.readExponent? (chars ++ rest) = some (exponent, rest) := by
  have noDigit : NoDigit rest := stops.mono fun _ => And.left
  cases written with
  | none => exact readExponent?_unmarked (stops.mono fun _ => And.right)
  | unsigned marks row => exact readExponent?_digits marks row (.bare (row.unsigned rest)) noDigit
  | plus marks row => exact readExponent?_digits marks row .plus noDigit
  | minus marks row => exact readExponent?_digits marks row .minus noDigit

theorem Exponent.starts (written : Exponent exponent chars) (stops : Ends rest) :
    StartsWith (fun char => isDigit char = false ∧ char ≠ '.') (chars ++ rest) := by
  have mark {char : Char} (marks : char ∈ ['e', 'E']) : isDigit char = false ∧ char ≠ '.' := by
    simp only [List.mem_cons, List.not_mem_nil, or_false] at marks
    rcases marks with rfl | rfl
    · decide
    · decide
  cases written with
  | none => exact stops.mono fun _ other => ⟨other.1, other.2.1⟩
  | unsigned marks => exact startsWith_cons.mpr (mark marks)
  | plus marks => exact startsWith_cons.mpr (mark marks)
  | minus marks => exact startsWith_cons.mpr (mark marks)

theorem Fraction.starts (written : Fraction fraction chars)
    (stops : StartsWith (fun char => isDigit char = false ∧ char ≠ '.') rest) :
    NoDigit (chars ++ rest) := by
  cases written with
  | none => exact stops.mono fun _ => And.left
  | digits => exact startsWith_cons.mpr (by decide)

theorem Whole.starts (written : Whole whole) (rest : List Char) :
    StartsWith (fun char => isDigit char = true) (whole ++ rest) := by
  cases whole with
  | nil => exact (written.digits_row.1 rfl).elim
  | cons first more => exact startsWith_cons.mpr (written.digits_row.2 first List.mem_cons_self)

def readParts? (negative : Bool) (text : List Char) : Option (Decimal × List Char) := do
  let (whole, afterWhole) ← Token.readWhole? text
  let (fraction, afterFraction) ← Token.readFraction? afterWhole
  let (exponent, rest) ← Decimal.readExponent? afterFraction
  pure ({ negative, whole, fraction, exponent }, rest)

theorem readNumeral?_minus (text : List Char) :
    Token.readNumeral? ('-' :: text) = readParts? true text := rfl

theorem readNumeral?_unsigned (unsigned : StartsWith (· ≠ '-') text) :
    Token.readNumeral? text = readParts? false text := by
  cases text with
  | nil => rfl
  | cons first more =>
      have other := startsWith_cons.mp unsigned
      rw [Token.readNumeral?.eq_def, readParts?]
      simp only [List.cons.injEq, other, false_and, imp_self, implies_true]

theorem readParts?_sound {negative : Bool}
    (read : readParts? negative text = some (decimal, rest)) :
    ∃ fractionChars exponentChars, decimal.negative = negative ∧ Whole decimal.whole ∧
      Fraction decimal.fraction fractionChars ∧ Exponent decimal.exponent exponentChars ∧
      text = decimal.whole ++ (fractionChars ++ exponentChars) ++ rest := by
  simp only [readParts?, bind, Option.bind_eq_some_iff, pure, Option.some.injEq, Prod.mk.injEq,
    Prod.exists] at read
  obtain ⟨whole, afterWhole, wholeRead, fraction, afterFraction, fractionRead, exponent, _,
    exponentRead, rfl, rfl⟩ := read
  obtain ⟨wholePart, rfl⟩ := readWhole?_sound wholeRead
  obtain ⟨fractionChars, fractionPart, rfl⟩ := readFraction?_sound fractionRead
  obtain ⟨exponentChars, exponentPart, rfl⟩ := readExponent?_sound exponentRead
  exact ⟨fractionChars, exponentChars, rfl, wholePart, fractionPart, exponentPart, by
    simp only [List.append_assoc]⟩

theorem readParts?_complete {negative : Bool} {fractionChars exponentChars : List Char}
    (wholePart : Whole whole) (fractionPart : Fraction fraction fractionChars)
    (exponentPart : Exponent exponent exponentChars) (stops : Ends rest) :
    readParts? negative (whole ++ (fractionChars ++ exponentChars) ++ rest) =
      some ({ negative, whole, fraction, exponent }, rest) := by
  have atExponent := exponentPart.starts stops
  have wholeRead := readWhole?_complete wholePart (fractionPart.starts atExponent)
  have fractionRead := readFraction?_complete fractionPart atExponent
  have exponentRead := readExponent?_complete exponentPart
    (stops.mono fun _ other => ⟨other.1, other.2.2⟩)
  simp only [readParts?, List.append_assoc, wholeRead, fractionRead, exponentRead, bind,
    Option.bind_some, pure]

theorem readNumeral?_sound (read : Token.readNumeral? text = some (decimal, rest)) :
    ∃ chars, NumeralWritten decimal chars ∧ text = chars ++ rest := by
  by_cases unsigned : StartsWith (· ≠ '-') text
  · rw [readNumeral?_unsigned unsigned] at read
    obtain ⟨fractionChars, exponentChars, positive, wholePart, fractionPart, exponentPart, same⟩ :=
      readParts?_sound read
    obtain ⟨negative, whole, fraction, exponent⟩ := decimal
    subst positive
    exact ⟨_, .positive wholePart fractionPart exponentPart, same⟩
  · obtain ⟨after, rfl⟩ : ∃ after, text = '-' :: after := by
      cases text with
      | nil => exact (unsigned nofun).elim
      | cons char after => exact ⟨after, by simpa [startsWith_cons] using unsigned⟩
    rw [readNumeral?_minus] at read
    obtain ⟨fractionChars, exponentChars, minus, wholePart, fractionPart, exponentPart, rfl⟩ :=
      readParts?_sound read
    obtain ⟨negative, whole, fraction, exponent⟩ := decimal
    subst minus
    exact ⟨_, .negative wholePart fractionPart exponentPart, rfl⟩

theorem readNumeral?_complete (written : NumeralWritten decimal chars) (stops : Ends rest) :
    Token.readNumeral? (chars ++ rest) = some (decimal, rest) := by
  cases written with
  | positive wholePart fractionPart exponentPart =>
      rw [readNumeral?_unsigned]
      · exact readParts?_complete wholePart fractionPart exponentPart stops
      · rw [List.append_assoc]
        refine (wholePart.starts _).mono ?_
        rintro _ digit rfl
        revert digit
        decide
  | negative wholePart fractionPart exponentPart =>
      exact readParts?_complete wholePart fractionPart exponentPart stops

end Numerals

section Strings

variable {text rest chars : List Char} {units done : List UInt16}

theorem escaped?_eq_some_iff {char : Char} {unit : UInt16} :
    Token.escaped? char = some unit ↔ (char, unit) ∈ escapes := by
  constructor
  · intro known
    rw [Token.escaped?.eq_def] at known
    split at known <;> cases known <;> decide
  · intro listed
    simp only [escapes, List.mem_cons, Prod.mk.injEq, List.not_mem_nil, or_false] at listed
    rcases listed with ⟨rfl, rfl⟩ | ⟨rfl, rfl⟩ | ⟨rfl, rfl⟩ | ⟨rfl, rfl⟩ | ⟨rfl, rfl⟩ | ⟨rfl, rfl⟩ |
      ⟨rfl, rfl⟩ | ⟨rfl, rfl⟩ <;> rfl

theorem hexDigits?_eq_some_iff {digits : List Char} {unit : UInt16} :
    Token.hexDigits? digits = some unit ↔
      HexDigits digits ∧ unit = (digitsValue 16 digits).toUInt16 := by
  have all : HexDigits digits ↔
      digits.all (fun digit => (digitValue? 16 digit).isSome) = true := List.all_eq_true.symm
  rw [all, Token.hexDigits?]
  split
  next holds =>
    rw [Option.some.injEq]
    exact ⟨fun same => ⟨holds, same.symm⟩, fun both => both.2.symm⟩
  next fails =>
    exact ⟨nofun, fun both => (fails both.1).elim⟩

theorem readString?_plain {char : Char} (noControl : 0x20 ≤ char.toNat) (noQuote : char ≠ '"')
    (noBackslash : char ≠ '\\') (done : List UInt16) (rest : List Char) :
    Token.readString? done (char :: rest) =
      Token.readString? ((Text.ofChar char).reverse ++ done) rest := by
  have passes : ¬ (char.toNat < 0x20 ∨ char = '\\') := by
    rintro (control | backslash)
    · omega
    · exact noBackslash backslash
  rw [Token.readString?.eq_def]
  split
  next nothing => cases nothing
  next same => cases same; exact (noQuote rfl).elim
  next same => cases same; exact (noBackslash rfl).elim
  next same => cases same; exact (noBackslash rfl).elim
  next same => cases same; rw [if_neg passes]

theorem readString?_escape {char : Char} {unit : UInt16} (known : (char, unit) ∈ escapes)
    (done : List UInt16) (rest : List Char) :
    Token.readString? done ('\\' :: char :: rest) = Token.readString? (unit :: done) rest := by
  have noCode : ∀ escape ∈ escapes, escape.1 ≠ 'u' := by decide
  rw [Token.readString?.eq_def]
  split
  next nothing => cases nothing
  next same => cases same
  next same => cases same; exact (noCode _ known rfl).elim
  next same => cases same; rw [escaped?_eq_some_iff.mpr known]
  next _ _ other same => cases same; exact (other _ _ rfl rfl).elim

theorem readString?_code {first second third fourth : Char}
    (digits : HexDigits [first, second, third, fourth]) (done : List UInt16) (rest : List Char) :
    Token.readString? done ('\\' :: 'u' :: first :: second :: third :: fourth :: rest) =
      Token.readString?
        ((digitsValue 16 [first, second, third, fourth]).toUInt16 :: done) rest := by
  rw [Token.readString?, hexDigits?_eq_some_iff.mpr ⟨digits, rfl⟩]

/-- How a string is read behind one of its items. -/
theorem readString?_item (item : StringItem units chars) (done : List UInt16) (rest : List Char) :
    Token.readString? done (chars ++ rest) = Token.readString? (units.reverse ++ done) rest := by
  cases item with
  | plain noControl noQuote noBackslash =>
      exact readString?_plain noControl noQuote noBackslash done rest
  | escape known => exact readString?_escape known done rest
  | code digits => exact readString?_code digits done rest

theorem readString?_items (items : StringItems units chars) (done : List UInt16)
    (rest : List Char) :
    Token.readString? done (chars ++ '"' :: rest) = some (⟨done.reverse ++ units⟩, rest) := by
  induction items generalizing done with
  | nil =>
      rw [List.nil_append, Token.readString?, List.append_nil]
  | cons item _ ih =>
      rw [List.append_assoc, readString?_item item, ih]
      simp

theorem readString?_sound {result : Text}
    (read : Token.readString? done text = some (result, rest)) :
    ∃ units chars, StringItems units chars ∧ result = ⟨done.reverse ++ units⟩ ∧
      text = chars ++ '"' :: rest := by
  -- the three ways to go on differ in the item that they read, and in nothing else
  have extend {done units itemChars after : List _} (item : StringItem units itemChars)
      (behind : ∃ moreUnits chars, StringItems moreUnits chars ∧
        result = ⟨(units.reverse ++ done).reverse ++ moreUnits⟩ ∧ after = chars ++ '"' :: rest) :
      ∃ allUnits chars, StringItems allUnits chars ∧ result = ⟨done.reverse ++ allUnits⟩ ∧
        itemChars ++ after = chars ++ '"' :: rest := by
    obtain ⟨moreUnits, chars, items, rfl, rfl⟩ := behind
    refine ⟨units ++ moreUnits, itemChars ++ chars, .cons item items, ?_, ?_⟩
    · simp
    · rw [List.append_assoc]
  fun_induction Token.readString? done text with
  | case1 => cases read
  | case2 done after =>
      cases read
      exact ⟨[], [], .nil, by rw [List.append_nil], rfl⟩
  | case3 done first second third fourth after unit code ih =>
      obtain ⟨digits, rfl⟩ := hexDigits?_eq_some_iff.mp code
      exact extend (.code digits) (ih read)
  | case4 => cases read
  | case5 done char after _ unit known ih =>
      exact extend (.escape (escaped?_eq_some_iff.mp known)) (ih read)
  | case6 => cases read
  | case7 => cases read
  | case8 done char after noQuote _ _ passes ih =>
      have noControl : 0x20 ≤ char.toNat := Nat.le_of_not_lt fun control => passes (.inl control)
      have noBackslash : char ≠ '\\' := fun backslash => passes (.inr backslash)
      exact extend (.plain noControl noQuote noBackslash) (ih read)

end Strings

inductive Token.Written : Token → List Char → Prop
  | openBracket : Written .openBracket ['[']
  | closeBracket : Written .closeBracket [']']
  | openBrace : Written .openBrace ['\x7b']
  | closeBrace : Written .closeBrace ['\x7d']
  | comma : Written .comma [',']
  | colon : Written .colon [':']
  | string {text : Text} {chars : List Char} (quoted : Quoted text chars) :
      Written (.string text) chars
  | null : Written (.literal .null) ['n', 'u', 'l', 'l']
  | isTrue : Written (.literal (.bool true)) ['t', 'r', 'u', 'e']
  | isFalse : Written (.literal (.bool false)) ['f', 'a', 'l', 's', 'e']
  | number {decimal : Decimal} {chars : List Char} (numeral : NumeralWritten decimal chars) :
      Written (.literal (.number decimal.toNumber)) chars

section Reading

variable {text rest chars : List Char} {token : Token} {decimal : Decimal}

theorem read?_quoted {content : Text} (quoted : Quoted content chars) (rest : List Char) :
    Token.read? (chars ++ rest) = some (.string content, rest) := by
  cases quoted with
  | intro items =>
      have found := readString?_items items [] rest
      simp only [List.cons_append, List.append_assoc, List.nil_append, Token.read?, found]
      rfl

theorem NumeralWritten.starts (written : NumeralWritten decimal chars) (rest : List Char) :
    ∃ first more, chars ++ rest = first :: more ∧ (first = '-' ∨ isDigit first = true) := by
  have leading {whole : List Char} (wholePart : Whole whole) (behind : List Char) :
      ∃ first more, whole ++ behind = first :: more ∧ (first = '-' ∨ isDigit first = true) := by
    have row := wholePart.digits_row
    cases whole with
    | nil => exact (row.1 rfl).elim
    | cons first more => exact ⟨first, more ++ behind, rfl, .inr (row.2 first List.mem_cons_self)⟩
  cases written with
  | positive wholePart fractionPart exponentPart =>
      rw [List.append_assoc]
      exact leading wholePart _
  | negative => exact ⟨'-', _, rfl, .inl rfl⟩

theorem read?_numeral (written : NumeralWritten decimal chars) (stops : Ends rest) :
    Token.read? (chars ++ rest) = some (.literal (.number decimal.toNumber), rest) := by
  have read := readNumeral?_complete written stops
  obtain ⟨first, more, same, starts⟩ := written.starts rest
  have other (char : Char) (sign : char ≠ '-') (noDigit : isDigit char = false) : first ≠ char := by
    rintro rfl
    rcases starts with minus | digit
    · exact sign minus
    · rw [noDigit] at digit
      cases digit
  rw [same] at read ⊢
  rw [Token.read?.eq_def]
  simp only [List.cons.injEq, other '[' (by decide) (by decide), other ']' (by decide) (by decide),
    other '\x7b' (by decide) (by decide), other '\x7d' (by decide) (by decide),
    other ',' (by decide) (by decide), other ':' (by decide) (by decide),
    other '"' (by decide) (by decide), other 'n' (by decide) (by decide),
    other 't' (by decide) (by decide), other 'f' (by decide) (by decide), false_and, imp_self,
    implies_true, read, Option.map_some]

theorem read?_sound (read : Token.read? text = some (token, rest)) :
    ∃ chars, token.Written chars ∧ text = chars ++ rest := by
  rw [Token.read?.eq_def] at read
  split at read
  · cases read
  · cases read
    exact ⟨_, .openBracket, rfl⟩
  · cases read
    exact ⟨_, .closeBracket, rfl⟩
  · cases read
    exact ⟨_, .openBrace, rfl⟩
  · cases read
    exact ⟨_, .closeBrace, rfl⟩
  · cases read
    exact ⟨_, .comma, rfl⟩
  · cases read
    exact ⟨_, .colon, rfl⟩
  next after =>
    obtain ⟨⟨content, behind⟩, found, same⟩ := Option.map_eq_some_iff.mp read
    cases same
    obtain ⟨units, chars, items, rfl, rfl⟩ := readString?_sound found
    exact ⟨_, .string (.intro items), by simp⟩
  · cases read
    exact ⟨_, .null, rfl⟩
  · cases read
    exact ⟨_, .isTrue, rfl⟩
  · cases read
    exact ⟨_, .isFalse, rfl⟩
  · obtain ⟨⟨decimal, behind⟩, found, same⟩ := Option.map_eq_some_iff.mp read
    cases same
    obtain ⟨chars, written, same⟩ := readNumeral?_sound found
    exact ⟨chars, .number written, same⟩

theorem Token.Written.starts (written : token.Written chars) (rest : List Char) :
    ∃ first more, chars ++ rest = first :: more ∧ Token.isSpace first = false := by
  cases written with
  | string quoted =>
      cases quoted with
      | intro items => exact ⟨'"', _, rfl, rfl⟩
  | number numeral =>
      obtain ⟨first, more, same, starts⟩ := numeral.starts rest
      refine ⟨first, more, same, ?_⟩
      rcases starts with rfl | digit
      · rfl
      · cases space : Token.isSpace first with
        | false => rfl
        | true =>
            simp only [Token.isSpace, Bool.or_eq_true, decide_eq_true_eq] at space
            rcases space with ((rfl | rfl) | rfl) | rfl <;> revert digit <;> decide
  | _ => exact ⟨_, _, rfl, rfl⟩

/-- A text taken apart into tokens, as it is read. -/
inductive Tokenized : List Char → List Token → Prop
  | nil {text : List Char} (blank : text.dropWhile Token.isSpace = []) : Tokenized text []
  | cons {text rest : List Char} {token : Token} {tokens : List Token}
      (read : Token.read? (text.dropWhile Token.isSpace) = some (token, rest))
      (more : Tokenized rest tokens) : Tokenized text (token :: tokens)

theorem read?_length (read : Token.read? text = some (token, rest)) :
    rest.length < text.length := by
  obtain ⟨chars, written, rfl⟩ := read?_sound read
  obtain ⟨first, more, same, _⟩ := written.starts []
  rw [List.append_nil] at same
  rw [same, List.length_append, List.length_cons]
  omega

theorem readAll?_eq_some_iff {fuel : Nat} {done all : List Token} (enough : text.length < fuel) :
    Token.readAll? fuel done text = some all ↔
      ∃ tokens, all = done.reverse ++ tokens ∧ Tokenized text tokens := by
  induction fuel generalizing done text with
  | zero => omega
  | succ fuel ih =>
      -- every token takes up a character, so that the fuel outlasts the text
      have shorter : (text.dropWhile Token.isSpace).length ≤ text.length :=
        (List.dropWhile_suffix _).length_le
      rw [Token.readAll?]
      split
      next blank =>
        constructor
        · intro same
          cases same
          exact ⟨[], by rw [List.append_nil], .nil blank⟩
        · rintro ⟨tokens, rfl, tokenized⟩
          cases tokenized with
          | nil => rw [List.append_nil]
          | cons read => rw [blank] at read; cases read
      next more =>
        split
        next token rest read =>
          have smaller := read?_length read
          rw [ih (by omega)]
          constructor
          · rintro ⟨tokens, rfl, tokenized⟩
            exact ⟨token :: tokens, by simp, .cons read tokenized⟩
          · rintro ⟨tokens, rfl, tokenized⟩
            cases tokenized with
            | nil blank => exact (more blank).elim
            | cons other tokenized =>
                rw [read] at other
                cases other
                exact ⟨_, by simp, tokenized⟩
        next unread =>
          constructor
          · nofun
          · rintro ⟨tokens, rfl, tokenized⟩
            cases tokenized with
            | nil blank => exact (more blank).elim
            | cons other tokenized => rw [unread] at other; cases other

theorem Token.ofText?_eq_some_iff {tokens : List Token} :
    Token.ofText? text = some tokens ↔ Tokenized text tokens := by
  rw [Token.ofText?, readAll?_eq_some_iff (Nat.lt_succ_self _)]
  simp

theorem blank_iff {blank : List Char} :
    Blank blank ↔ ∀ char ∈ blank, Token.isSpace char = true := by
  simp [Blank, Token.isSpace, or_assoc]

theorem Tokenized.blank {blank : List Char} {tokens : List Token} (isBlank : Blank blank)
    (tokenized : Tokenized text tokens) : Tokenized (blank ++ text) tokens := by
  have same : (blank ++ text).dropWhile Token.isSpace = text.dropWhile Token.isSpace :=
    List.dropWhile_append_of_pos (blank_iff.mp isBlank)
  cases tokenized with
  | nil blank => exact .nil (same.trans blank)
  | cons read more => exact .cons (same ▸ read) more

theorem Tokenized.front {tokens : List Token} (written : token.Written chars)
    (read : Token.read? (chars ++ rest) = some (token, rest)) (more : Tokenized rest tokens) :
    Tokenized (chars ++ rest) (token :: tokens) := by
  obtain ⟨first, behind, same, noSpace⟩ := written.starts rest
  have kept : (chars ++ rest).dropWhile Token.isSpace = chars ++ rest := by
    rw [same, List.dropWhile_cons_of_neg (by simp [noSpace])]
  exact .cons (kept.symm ▸ read) more

theorem tokenized_nil_iff : Tokenized text [] ↔ Blank text := by
  rw [blank_iff]
  constructor
  · rintro ⟨blank⟩
    exact List.dropWhile_eq_nil_iff.mp blank
  · intro blank
    exact .nil (List.dropWhile_eq_nil_iff.mpr blank)

/-- The first token of a text, with the blanks in front of it. -/
theorem Tokenized.uncons {tokens : List Token} (tokenized : Tokenized text (token :: tokens)) :
    ∃ blank chars rest, Blank blank ∧ token.Written chars ∧ text = blank ++ (chars ++ rest) ∧
      Tokenized rest tokens := by
  cases tokenized with
  | @cons _ rest _ _ read more =>
      obtain ⟨chars, written, same⟩ := read?_sound read
      refine ⟨text.takeWhile Token.isSpace, chars, rest, ?_, written, ?_, more⟩
      · rw [blank_iff]
        exact List.all_eq_true.mp List.all_takeWhile
      · rw [← same, List.takeWhile_append_dropWhile]

end Reading

end NodeConsole.Json
