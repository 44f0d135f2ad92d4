import NodeConsole.Proofs.TextCoding
import NodeConsole.Proofs.Tokens

/-!
The spellings of numerals, apart from any reader: decimal ones with a sign, a point and an exponent
where they have them, and those that name their base. A text that holds one of them, with any blanks
around it, is read as that numeral (`ofText?_decimal`, `ofText?_based`), and one of blanks alone is
read as none.
-/

namespace NodeConsole

open Json (Digits Exponent NoDigit StartsWith startsWith_cons)

def AllBlank (chars : List Char) : Prop :=
  ∀ char ∈ chars, isBlank char = true

def Surrounded (chars : List Char) (text : Text) : Prop :=
  ∃ front back, AllBlank front ∧ AllBlank back ∧ text = Text.ofChars (front ++ (chars ++ back))

theorem isBlank_visible {char : Char} (above : 0x20 < char.toNat) (below : char.toNat < 0xA0) :
    isBlank char = false := by
  simp only [isBlank, Bool.or_eq_false_iff, Bool.and_eq_false_iff, decide_eq_false_iff_not,
    beq_eq_false_iff_ne]
  omega

theorem dropBlanks_blank {front : List Char} (blank : AllBlank front) (rest : List Char) :
    dropBlanks (front ++ rest) = dropBlanks rest :=
  List.dropWhile_append_of_pos blank

theorem dropBlanks_visible {chars : List Char} (visible : ∀ char ∈ chars, isBlank char = false) :
    dropBlanks chars = chars := by
  cases chars with
  | nil => rfl
  | cons char rest =>
      rw [dropBlanks, List.dropWhile_cons, visible char List.mem_cons_self]
      rfl

theorem trimBlanks_surrounded {front chars back : List Char} (before : AllBlank front)
    (behind : AllBlank back) (visible : ∀ char ∈ chars, isBlank char = false) :
    trimBlanks (front ++ (chars ++ back)) = chars := by
  have ends : dropBlanks (chars ++ back).reverse = chars.reverse := by
    have reversed : AllBlank back.reverse := fun char member =>
      behind char (List.mem_reverse.mp member)
    rw [List.reverse_append, dropBlanks_blank reversed]
    exact dropBlanks_visible fun char member => visible char (List.mem_reverse.mp member)
  cases chars with
  | nil =>
      have nothing : dropBlanks back = [] := by
        have dropped := dropBlanks_blank behind []
        rwa [List.append_nil] at dropped
      rw [trimBlanks, dropBlanks_blank before, List.nil_append, nothing]
      rfl
  | cons char rest =>
      have starts : dropBlanks (char :: rest ++ back) = char :: rest ++ back := by
        rw [dropBlanks, List.cons_append, List.dropWhile_cons, visible char List.mem_cons_self]
        rfl
      rw [trimBlanks, dropBlanks_blank before, starts, ends, List.reverse_reverse]

namespace Numeral

inductive Sign : Bool → List Char → Prop
  | none : Sign false []
  | plus : Sign false ['+']
  | minus : Sign true ['-']

/-- The digits before and behind the point, at least one in all, and how they are written. -/
inductive Mantissa : List Char → List Char → List Char → Prop
  | whole {whole : List Char} (row : Digits whole) : Mantissa whole [] whole
  | pointed {whole fraction : List Char} (row : Digits (whole ++ fraction)) :
      Mantissa whole fraction (whole ++ '.' :: fraction)

inductive DecimalSpelled : Decimal → List Char → Prop
  | intro {negative : Bool} {whole fraction sign mantissa power : List Char} {exponent : Int}
      (signed : Sign negative sign) (digits : Mantissa whole fraction mantissa)
      (scaled : Exponent exponent power) :
      DecimalSpelled { negative, whole, fraction, exponent } (sign ++ (mantissa ++ power))

def baseMarks : List (Char × Nat) :=
  [('x', 16), ('X', 16), ('o', 8), ('O', 8), ('b', 2), ('B', 2)]

inductive BasedSpelled : Nat → List Char → List Char → Prop
  | intro {mark : Char} {base : Nat} {digits : List Char} (marked : (mark, base) ∈ baseMarks)
      (present : digits ≠ []) (row : ∀ digit ∈ digits, (digitValue? base digit).isSome) :
      BasedSpelled base digits ('0' :: mark :: digits)

variable {negative : Bool} {whole fraction mantissa power chars digits : List Char}
variable {exponent : Int} {decimal : Decimal} {base : Nat} {text : Text}

theorem isDigit_bounds {char : Char} (digit : isDigit char = true) :
    0x30 ≤ char.toNat ∧ char.toNat ≤ 0x39 := by
  simp only [isDigit, Bool.and_eq_true, decide_eq_true_eq, Char.le_def,
    UInt32.le_iff_toNat_le] at digit
  exact digit

theorem digitValue?_bounds {char : Char} (digit : (digitValue? base char).isSome) :
    0x30 ≤ char.toNat ∧ char.toNat ≤ 0x66 := by
  obtain ⟨value, found⟩ := Option.isSome_iff_exists.mp digit
  rw [digitValue?, Option.filter_eq_some_iff] at found
  obtain ⟨found, _⟩ := found
  simp only [Char.le_def, UInt32.le_iff_toNat_le] at found
  split at found
  next decimal =>
    have bounds := isDigit_bounds decimal
    omega
  split at found
  next small =>
    change 0x61 ≤ char.toNat ∧ char.toNat ≤ 0x66 at small
    omega
  split at found
  next capital =>
    change 0x41 ≤ char.toNat ∧ char.toNat ≤ 0x46 at capital
    omega
  next => cases found

theorem digit_visible {char : Char} (digit : isDigit char = true) : isBlank char = false := by
  have bounds := isDigit_bounds digit
  exact isBlank_visible (by omega) (by omega)

theorem Sign.visible {sign : List Char} (signed : Sign negative sign) :
    ∀ char ∈ sign, isBlank char = false := by
  cases signed with
  | none => exact nofun
  | plus => exact List.forall_mem_singleton.mpr (by decide)
  | minus => exact List.forall_mem_singleton.mpr (by decide)

theorem Mantissa.char (digits : Mantissa whole fraction mantissa) :
    ∀ char ∈ mantissa, isDigit char = true ∨ char = '.' := by
  intro char member
  cases digits with
  | whole row => exact .inl (row.2 char member)
  | pointed row =>
      rcases List.mem_append.mp member with before | behind
      · exact .inl (row.2 char (List.mem_append_left fraction before))
      · rcases List.mem_cons.mp behind with rfl | behind
        · exact .inr rfl
        · exact .inl (row.2 char (List.mem_append_right whole behind))

theorem Mantissa.ne_nil (digits : Mantissa whole fraction mantissa) : mantissa ≠ [] := by
  cases digits with
  | whole row => exact row.1
  | pointed row => simp

theorem Mantissa.visible (digits : Mantissa whole fraction mantissa) :
    ∀ char ∈ mantissa, isBlank char = false := by
  intro char member
  rcases digits.char char member with digit | rfl
  · exact digit_visible digit
  · decide

theorem row_visible (row : Digits digits) : ∀ char ∈ digits, isBlank char = false :=
  fun char member => digit_visible (row.2 char member)

theorem exponent_visible (scaled : Exponent exponent power) :
    ∀ char ∈ power, isBlank char = false := by
  have mark : ∀ char ∈ ['e', 'E'], isBlank char = false :=
    List.forall_mem_cons.mpr ⟨by decide, List.forall_mem_singleton.mpr (by decide)⟩
  have sign : isBlank '+' = false ∧ isBlank '-' = false := by
    decide
  cases scaled with
  | none => exact nofun
  | unsigned marks row => exact List.forall_mem_cons.mpr ⟨mark _ marks, row_visible row⟩
  | plus marks row =>
      exact List.forall_mem_cons.mpr
        ⟨mark _ marks, List.forall_mem_cons.mpr ⟨sign.1, row_visible row⟩⟩
  | minus marks row =>
      exact List.forall_mem_cons.mpr
        ⟨mark _ marks, List.forall_mem_cons.mpr ⟨sign.2, row_visible row⟩⟩

theorem DecimalSpelled.visible (spelled : DecimalSpelled decimal chars) :
    ∀ char ∈ chars, isBlank char = false := by
  obtain ⟨signed, digits, scaled⟩ := spelled
  intro char member
  rcases List.mem_append.mp member with member | member
  · exact signed.visible char member
  · rcases List.mem_append.mp member with member | member
    · exact digits.visible char member
    · exact exponent_visible scaled char member

theorem BasedSpelled.visible (spelled : BasedSpelled base digits chars) :
    ∀ char ∈ chars, isBlank char = false := by
  have shown : (baseMarks.all fun entry => !isBlank entry.1) = true := by
    decide
  cases spelled with
  | @intro mark _ _ marked present row =>
      have zero : isBlank '0' = false := by
        decide
      have visible : isBlank mark = false :=
        (Bool.not_eq_true' _).mp (List.all_eq_true.mp shown (mark, base) marked)
      refine List.forall_mem_cons.mpr
        ⟨zero, List.forall_mem_cons.mpr ⟨visible, ?_⟩⟩
      intro char member
      have bounds := digitValue?_bounds (row char member)
      exact isBlank_visible (by omega) (by omega)

theorem exponent_starts (scaled : Exponent exponent power) :
    StartsWith (fun char => char ∈ ['e', 'E']) power := by
  cases scaled with
  | none => exact nofun
  | unsigned marks => exact startsWith_cons.mpr marks
  | plus marks => exact startsWith_cons.mpr marks
  | minus marks => exact startsWith_cons.mpr marks

/-- A decimal numeral without a sign starts with a digit or a point, and neither a sign nor the mark
of a base follows. -/
theorem Mantissa.starts (digits : Mantissa whole fraction mantissa)
    (scaled : Exponent exponent power) :
    ∃ first rest, mantissa ++ power = first :: rest ∧ (isDigit first = true ∨ first = '.') ∧
      StartsWith (fun char => isDigit char = true ∨ char ∈ ['.', 'e', 'E']) rest := by
  have chars := digits.char
  cases mantissa with
  | nil => exact (digits.ne_nil rfl).elim
  | cons first more =>
      refine ⟨first, more ++ power, rfl, chars first List.mem_cons_self, ?_⟩
      cases more with
      | nil =>
          exact (exponent_starts scaled).mono fun _ mark => .inr (List.mem_cons_of_mem '.' mark)
      | cons second more =>
          refine startsWith_cons.mpr ?_
          exact (chars second (by simp)).imp_right fun point => by simp [point]

theorem readUnsigned?_digits (digits : Mantissa whole fraction mantissa)
    (scaled : Exponent exponent power) :
    readUnsigned? negative (mantissa ++ power) =
      some (.decimal { negative, whole, fraction, exponent }) := by
  have finite : mantissa ++ power ≠ "Infinity".toList := by
    obtain ⟨first, rest, starts, opens, _⟩ := digits.starts scaled
    rw [starts]
    intro same
    obtain rfl : first = 'I' := (List.cons.inj same).1
    revert opens
    decide
  have marks : ∀ char ∈ ['e', 'E'], isDigit char = false ∧ char ≠ '.' :=
    List.forall_mem_cons.mpr ⟨by decide, List.forall_mem_singleton.mpr (by decide)⟩
  have noDigit : NoDigit power := (exponent_starts scaled).mono fun char mark => (marks char mark).1
  have read : Decimal.readExponent? (power ++ []) = some (exponent, []) :=
    Json.readExponent?_complete scaled nofun
  rw [List.append_nil] at read
  rw [readUnsigned?, if_neg finite]
  cases digits with
  | whole row =>
      have noPoint : StartsWith (· ≠ '.') power :=
        (exponent_starts scaled).mono fun char mark => (marks char mark).2
      rw [Json.digits_span row.2 noDigit]
      cases power with
      | nil => simp [row.1, read]
      | cons first rest => simp [row.1, read, startsWith_cons.mp noPoint]
  | pointed row =>
      have wholeRow : ∀ digit ∈ whole, isDigit digit = true :=
        fun digit member => row.2 digit (List.mem_append_left fraction member)
      have fractionRow : ∀ digit ∈ fraction, isDigit digit = true :=
        fun digit member => row.2 digit (List.mem_append_right whole member)
      have present : (whole.isEmpty && fraction.isEmpty) = false := by
        simpa [List.append_eq_nil_iff] using row.1
      rw [List.append_assoc, List.cons_append,
        Json.digits_span wholeRow (startsWith_cons.mpr (by decide))]
      simp only [Json.digits_span fractionRow noDigit, present, Bool.false_eq_true, if_false, read]

theorem read?_unsigned {first : Char} {rest : List Char}
    (opens : isDigit first = true ∨ first = '.')
    (follows : StartsWith (fun char => isDigit char = true ∨ char ∈ ['.', 'e', 'E']) rest) :
    read? (first :: rest) = readUnsigned? false (first :: rest) := by
  rw [read?.eq_def]
  split
  -- the marks of the bases, then the signs
  iterate 6
    next same =>
      cases same
      exact absurd (startsWith_cons.mp follows) (by decide)
  iterate 2
    next same =>
      cases same
      exact absurd opens (by decide)
  rfl

theorem DecimalSpelled.read (spelled : DecimalSpelled decimal chars) :
    read? chars = some (.decimal decimal) := by
  cases spelled with
  | @intro negative _ _ _ mantissa power _ signed digits scaled =>
      have unsigned : readUnsigned? negative (mantissa ++ power) = _ :=
        readUnsigned?_digits digits scaled
      cases signed with
      | none =>
          obtain ⟨first, rest, starts, opens, follows⟩ := digits.starts scaled
          rw [List.nil_append, ← unsigned, starts]
          exact read?_unsigned opens follows
      | plus =>
          rw [← unsigned]
          rfl
      | minus =>
          rw [← unsigned]
          rfl

theorem BasedSpelled.read (spelled : BasedSpelled base digits chars) :
    read? chars = some (.based base digits) := by
  cases spelled with
  | intro marked present row =>
      have digitsRead : readBased? base digits = some (.based base digits) :=
        if_pos ⟨present, List.all_eq_true.mpr row⟩
      simp only [baseMarks, List.mem_cons, Prod.mk.injEq, List.not_mem_nil, or_false] at marked
      rcases marked with ⟨rfl, rfl⟩ | ⟨rfl, rfl⟩ | ⟨rfl, rfl⟩ | ⟨rfl, rfl⟩ | ⟨rfl, rfl⟩ | ⟨rfl, rfl⟩
      all_goals exact digitsRead

theorem ofText?_surrounded (visible : ∀ char ∈ chars, isBlank char = false)
    (around : Surrounded chars text) : ofText? text = read? chars := by
  obtain ⟨front, back, before, behind, rfl⟩ := around
  rw [ofText?, Text.toChars_ofChars, trimBlanks_surrounded before behind visible]

theorem ofText?_decimal (spelled : DecimalSpelled decimal chars) (around : Surrounded chars text) :
    ofText? text = some (.decimal decimal) := by
  rw [ofText?_surrounded spelled.visible around, spelled.read]

theorem ofText?_based (spelled : BasedSpelled base digits chars) (around : Surrounded chars text) :
    ofText? text = some (.based base digits) := by
  rw [ofText?_surrounded spelled.visible around, spelled.read]

theorem ofText?_blank (blank : AllBlank chars) : ofText? (Text.ofChars chars) = none := by
  have visible : ∀ char ∈ ([] : List Char), isBlank char = false :=
    List.forall_mem_nil _
  have around : Surrounded [] (Text.ofChars chars) :=
    ⟨chars, [], blank, List.forall_mem_nil _, by rw [List.append_nil, List.append_nil]⟩
  rw [ofText?_surrounded visible around]
  decide

end Numeral

end NodeConsole
