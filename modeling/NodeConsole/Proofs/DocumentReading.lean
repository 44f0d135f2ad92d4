import NodeConsole.Json.Reader
import NodeConsole.Proofs.Rounding
import NodeConsole.Proofs.Tokens

/-!
Reading a text as JSON finds its document: a text has a value just when it writes a document, and
the value is that of the document.
-/

namespace NodeConsole.Json

/-- Tokens that a value takes up, whatever comes behind them. -/
def Reads (tokens : List Token) (value : Value) : Prop :=
  ∀ fuel rest, tokens.length ≤ fuel → readValue? fuel (tokens ++ rest) = some (value, rest)

/-- Characters that are taken apart into these tokens where nothing carries on a numeral. -/
def Splits (chars : List Char) (tokens : List Token) : Prop :=
  ∀ rest more, Ends rest → Tokenized rest more → Tokenized (chars ++ rest) (tokens ++ more)

def Opens (tokens : List Token) : Prop :=
  ∃ first rest, tokens = first :: rest ∧ first ≠ .closeBracket ∧ first ≠ .closeBrace

section Writing

variable {chars moreChars spaces : List Char} {tokens moreTokens : List Token}

theorem Ends.blank {rest : List Char} (isBlank : Blank spaces) (ends : Ends rest) :
    Ends (spaces ++ rest) := by
  cases spaces with
  | nil => exact ends
  | cons char spaces =>
      have space := isBlank char List.mem_cons_self
      simp only [List.mem_cons, List.not_mem_nil, or_false] at space
      refine startsWith_cons.mpr ?_
      rcases space with rfl | rfl | rfl | rfl <;> decide

theorem splits_nil : Splits [] [] :=
  fun _ _ _ tokenized => tokenized

theorem splits_token {token : Token} (written : token.Written chars)
    (read : ∀ rest, Ends rest → Token.read? (chars ++ rest) = some (token, rest)) :
    Splits chars [token] :=
  fun rest _ ends tokenized => .front written (read rest ends) tokenized

/-- A token that is read whatever stands behind it may stand in front. -/
theorem Splits.front {token : Token} {tokenChars : List Char} (written : token.Written tokenChars)
    (read : ∀ rest, Token.read? (tokenChars ++ rest) = some (token, rest))
    (splits : Splits chars tokens) : Splits (tokenChars ++ chars) (token :: tokens) := by
  intro rest more ends tokenized
  rw [List.append_assoc]
  exact .front written (read _) (splits rest more ends tokenized)

theorem Splits.blank (isBlank : Blank spaces) (splits : Splits chars tokens) :
    Splits (spaces ++ chars) tokens := by
  intro rest more ends tokenized
  rw [List.append_assoc]
  exact .blank isBlank (splits rest more ends tokenized)

theorem Splits.append (splits : Splits chars tokens) (behind : Splits moreChars moreTokens)
    (starts : ∀ rest, Ends rest → Ends (moreChars ++ rest)) :
    Splits (chars ++ moreChars) (tokens ++ moreTokens) := by
  intro rest more ends tokenized
  rw [List.append_assoc, List.append_assoc]
  exact splits _ _ (starts rest ends) (behind rest more ends tokenized)

/-- Punctuation behind a part, with what follows it. -/
theorem Splits.punctuated {char : Char} {token : Token} (splits : Splits chars tokens)
    (written : token.Written [char])
    (read : ∀ rest, Token.read? (char :: rest) = some (token, rest))
    (apart : isDigit char = false ∧ char ≠ '.' ∧ char ≠ 'e' ∧ char ≠ 'E')
    (behind : Splits moreChars moreTokens) :
    Splits (chars ++ char :: moreChars) (tokens ++ token :: moreTokens) :=
  splits.append (behind.front written read) fun _ _ => startsWith_cons.mpr apart

/-- Tokens that a single step reads. -/
theorem reads_step {first : Token} {value : Value}
    (step : ∀ fuel rest, readValue? (fuel + 1) (first :: (tokens ++ rest)) = some (value, rest)) :
    Reads (first :: tokens) value := by
  intro fuel rest enough
  cases fuel with
  | zero => cases enough
  | succ fuel => exact step fuel rest

def ReadsItems (tokens : List Token) (items : List Value) : Prop :=
  ∀ fuel done rest, tokens.length < fuel →
    readItems? fuel done (tokens ++ .closeBracket :: rest) =
      some (.array (done.reverse ++ items), rest)

def ReadsFields (tokens : List Token) (members : List (Text × Document)) : Prop :=
  ∀ fuel done rest, tokens.length < fuel →
    readFields? fuel done (tokens ++ .closeBrace :: rest) =
      some (.object (Document.fieldsFrom done members), rest)

theorem readValue?_array {first : Token} {rest : List Token} {fuel : Nat}
    (opens : first ≠ .closeBracket) :
    readValue? (fuel + 1) (.openBracket :: first :: rest) = readItems? fuel [] (first :: rest) := by
  cases first with
  | closeBracket => exact (opens rfl).elim
  | _ => rfl

theorem readValue?_object {first : Token} {rest : List Token} {fuel : Nat}
    (opens : first ≠ .closeBrace) :
    readValue? (fuel + 1) (.openBrace :: first :: rest) = readFields? fuel [] (first :: rest) := by
  cases first with
  | closeBrace => exact (opens rfl).elim
  | _ => rfl

theorem ReadsItems.array {items : List Value} (opens : Opens tokens)
    (reads : ReadsItems tokens items) :
    Reads (.openBracket :: (tokens ++ [.closeBracket])) (.array items) := by
  intro fuel rest enough
  rw [List.length_cons, List.length_append, List.length_singleton] at enough
  cases fuel with
  | zero => omega
  | succ fuel =>
      have found := reads fuel [] rest (by omega)
      obtain ⟨first, behind, rfl, noBracket, _⟩ := opens
      rw [List.cons_append] at found
      rw [List.cons_append, List.cons_append, List.cons_append, readValue?_array noBracket,
        List.append_assoc]
      exact found

theorem ReadsFields.object {members : List (Text × Document)} (opens : Opens tokens)
    (reads : ReadsFields tokens members) :
    Reads (.openBrace :: (tokens ++ [.closeBrace])) (.object (Document.fieldsFrom [] members)) := by
  intro fuel rest enough
  rw [List.length_cons, List.length_append, List.length_singleton] at enough
  cases fuel with
  | zero => omega
  | succ fuel =>
      have found := reads fuel [] rest (by omega)
      obtain ⟨first, behind, rfl, _, noBrace⟩ := opens
      rw [List.cons_append] at found
      rw [List.cons_append, List.cons_append, List.cons_append, readValue?_object noBrace,
        List.append_assoc]
      exact found

theorem Reads.last_item {value : Value} (reads : Reads tokens value) :
    ReadsItems tokens [value] := by
  intro fuel done rest enough
  cases fuel with
  | zero => omega
  | succ fuel =>
      rw [readItems?, reads fuel _ (by omega)]
      simp

theorem Reads.cons_item {value : Value} {items : List Value} (reads : Reads tokens value)
    (behind : ReadsItems moreTokens items) :
    ReadsItems (tokens ++ .comma :: moreTokens) (value :: items) := by
  intro fuel done rest enough
  rw [List.length_append, List.length_cons] at enough
  cases fuel with
  | zero => omega
  | succ fuel =>
      rw [List.append_assoc, readItems?, reads fuel _ (by omega)]
      have found := behind fuel (value :: done) rest (by omega)
      simpa using found

theorem Reads.last_field {name : Text} {member : Document} (reads : Reads tokens member.value) :
    ReadsFields (.string name :: .colon :: tokens) [(name, member)] := by
  intro fuel done rest enough
  rw [List.length_cons, List.length_cons] at enough
  cases fuel with
  | zero => omega
  | succ fuel =>
      simp only [List.cons_append]
      rw [readFields?, reads fuel _ (by omega)]
      rfl

theorem Reads.cons_field {name : Text} {member : Document} {members : List (Text × Document)}
    (reads : Reads tokens member.value) (behind : ReadsFields moreTokens members) :
    ReadsFields (.string name :: .colon :: (tokens ++ .comma :: moreTokens))
      ((name, member) :: members) := by
  intro fuel done rest enough
  rw [List.length_cons, List.length_cons, List.length_append, List.length_cons] at enough
  cases fuel with
  | zero => omega
  | succ fuel =>
      simp only [List.cons_append, List.append_assoc]
      rw [readFields?, reads fuel _ (by omega)]
      exact behind fuel (done.put name member.value) rest (by omega)

end Writing

mutual

/-- What is written is taken apart into tokens that are read as its value. -/
theorem Written.tokens : ∀ {document : Document} {chars : List Char}, Written document chars →
    ∃ tokens, Splits chars tokens ∧ Opens tokens ∧ Reads tokens document.value
  | _, _, .null => ⟨[.literal .null], splits_token .null fun _ _ => rfl,
      ⟨_, _, rfl, nofun, nofun⟩, reads_step fun _ _ => rfl⟩
  | _, _, .isTrue => ⟨[.literal (.bool true)], splits_token .isTrue fun _ _ => rfl,
      ⟨_, _, rfl, nofun, nofun⟩, reads_step fun _ _ => rfl⟩
  | _, _, .isFalse => ⟨[.literal (.bool false)], splits_token .isFalse fun _ _ => rfl,
      ⟨_, _, rfl, nofun, nofun⟩, reads_step fun _ _ => rfl⟩
  | _, _, .number numeral => by
      refine ⟨_, splits_token (.number numeral) fun _ => read?_numeral numeral,
        ⟨_, _, rfl, nofun, nofun⟩, ?_⟩
      rw [Document.value, ← Decimal.toNumber_eq]
      exact reads_step fun _ _ => rfl
  | _, _, .string quoted => by
      exact ⟨[.string _], splits_token (.string quoted) fun rest _ => read?_quoted quoted rest,
        ⟨_, _, rfl, nofun, nofun⟩, reads_step fun _ _ => rfl⟩
  | _, _, .emptyArray isBlank => by
      refine ⟨[.openBracket, .closeBracket], ?_, ⟨_, _, rfl, nofun, nofun⟩,
        reads_step fun _ _ => rfl⟩
      exact .front .openBracket (fun _ => rfl)
        (.blank isBlank (splits_token .closeBracket fun _ _ => rfl))
  | _, _, .array written => by
      obtain ⟨tokens, splits, opens, reads⟩ := written.tokens
      refine ⟨.openBracket :: (tokens ++ [.closeBracket]), ?_, ⟨_, _, rfl, nofun, nofun⟩,
        reads.array opens⟩
      exact .front .openBracket (fun _ => rfl)
        (splits.punctuated .closeBracket (fun _ => rfl) (by decide) splits_nil)
  | _, _, .emptyObject isBlank => by
      refine ⟨[.openBrace, .closeBrace], ?_, ⟨_, _, rfl, nofun, nofun⟩,
        reads_step fun _ _ => rfl⟩
      exact .front .openBrace (fun _ => rfl)
        (.blank isBlank (splits_token .closeBrace fun _ _ => rfl))
  | _, _, .object written => by
      obtain ⟨tokens, splits, opens, reads⟩ := written.tokens
      refine ⟨.openBrace :: (tokens ++ [.closeBrace]), ?_, ⟨_, _, rfl, nofun, nofun⟩,
        reads.object opens⟩
      exact .front .openBrace (fun _ => rfl)
        (splits.punctuated .closeBrace (fun _ => rfl) (by decide) splits_nil)

theorem ItemsWritten.tokens : ∀ {items : List Document} {chars : List Char},
    ItemsWritten items chars →
      ∃ tokens, Splits chars tokens ∧ Opens tokens ∧ ReadsItems tokens (Document.values items)
  | _, _, .last written => by
      obtain ⟨tokens, splits, opens, reads⟩ := written.tokens
      exact ⟨tokens, splits, opens, reads.last_item⟩
  | _, _, .cons written more => by
      obtain ⟨tokens, splits, ⟨first, behind, rfl, opens⟩, reads⟩ := written.tokens
      obtain ⟨moreTokens, moreSplits, _, moreReads⟩ := more.tokens
      exact ⟨_, splits.punctuated .comma (fun _ => rfl) (by decide) moreSplits,
        ⟨first, _, rfl, opens⟩, reads.cons_item moreReads⟩

theorem MemberWritten.tokens : ∀ {name : Text} {member : Document} {chars : List Char},
    MemberWritten name member chars → ∃ tokens, Splits chars (.string name :: .colon :: tokens) ∧
      Reads tokens member.value
  | _, _, _, .intro blankBefore quoted blankAfter written => by
      obtain ⟨tokens, splits, _, reads⟩ := written.tokens
      have colon := Splits.front (.colon) (fun _ => rfl) splits
      exact ⟨tokens, .blank blankBefore (.front (.string quoted) (read?_quoted quoted)
        (.blank blankAfter colon)), reads⟩

theorem MembersWritten.tokens : ∀ {members : List (Text × Document)} {chars : List Char},
    MembersWritten members chars →
      ∃ tokens, Splits chars tokens ∧ Opens tokens ∧ ReadsFields tokens members
  | _, _, .last written => by
      obtain ⟨tokens, splits, reads⟩ := written.tokens
      exact ⟨_, splits, ⟨_, _, rfl, nofun, nofun⟩, reads.last_field⟩
  | _, _, .cons written more => by
      obtain ⟨tokens, splits, reads⟩ := written.tokens
      obtain ⟨moreTokens, moreSplits, _, moreReads⟩ := more.tokens
      exact ⟨_, splits.punctuated .comma (fun _ => rfl) (by decide) moreSplits,
        ⟨_, _, rfl, nofun, nofun⟩, reads.cons_field moreReads⟩

theorem Spaced.tokens : ∀ {document : Document} {chars : List Char}, Spaced document chars →
    ∃ tokens, Splits chars tokens ∧ Opens tokens ∧ Reads tokens document.value
  | _, _, .intro blankBefore written blankAfter => by
      obtain ⟨tokens, splits, opens, reads⟩ := written.tokens
      refine ⟨tokens, ?_, opens, reads⟩
      intro rest more ends tokenized
      rw [List.append_assoc, List.append_assoc]
      exact .blank blankBefore (splits _ more (ends.blank blankAfter) (tokenized.blank blankAfter))

end

section Recovering

variable {text : List Char} {tokens rest : List Token}

/-- Behind blanks, a token of one character. -/
theorem Tokenized.punctuation {token : Token} {char : Char}
    (only : ∀ chars, token.Written chars → chars = [char])
    (tokenized : Tokenized text (token :: tokens)) :
    ∃ blank after, Blank blank ∧ text = blank ++ char :: after ∧ Tokenized after tokens := by
  obtain ⟨blank, chars, after, isBlank, written, rfl, more⟩ := tokenized.uncons
  rw [only chars written]
  exact ⟨blank, after, isBlank, rfl, more⟩

def Found (text : List Char) (value : Value) (rest : List Token) : Prop :=
  ∃ document before chars after, Blank before ∧ Written document chars ∧ document.value = value ∧
    text = before ++ (chars ++ after) ∧ Tokenized after rest

def FoundItems (text : List Char) (done : List Value) (value : Value) (rest : List Token) : Prop :=
  ∃ items chars after, ItemsWritten items chars ∧
    value = .array (done.reverse ++ Document.values items) ∧ text = chars ++ ']' :: after ∧
    Tokenized after rest

def FoundFields (text : List Char) (done : Fields) (value : Value) (rest : List Token) : Prop :=
  ∃ members chars after, MembersWritten members chars ∧
    value = .object (Document.fieldsFrom done members) ∧ text = chars ++ '\x7d' :: after ∧
    Tokenized after rest

theorem literal_written {value : Value} {chars : List Char}
    (written : (Token.literal value).Written chars) :
    ∃ document, Written document chars ∧ document.value = value := by
  cases written with
  | null => exact ⟨_, .null, rfl⟩
  | isTrue => exact ⟨_, .isTrue, rfl⟩
  | isFalse => exact ⟨_, .isFalse, rfl⟩
  | number numeral =>
      refine ⟨_, .number numeral, ?_⟩
      rw [Document.value, ← Decimal.toNumber_eq]

/-- A document that is found in front of a token of one character reaches to that character. -/
theorem Found.before {value : Value} {token : Token} {char : Char}
    (only : ∀ chars, token.Written chars → chars = [char])
    (found : Found text value (token :: rest)) :
    ∃ document chars after, Spaced document chars ∧ document.value = value ∧
      text = chars ++ char :: after ∧ Tokenized after rest := by
  obtain ⟨document, before, chars, after, blankBefore, written, same, rfl, tokenized⟩ := found
  obtain ⟨blank, behind, blankAfter, rfl, more⟩ := tokenized.punctuation only
  refine ⟨document, _, behind, .intro blankBefore written blankAfter, same, ?_, more⟩
  simp only [List.append_assoc]

theorem readValue?_found {fuel : Nat} {value : Value} (tokenized : Tokenized text tokens)
    (readItems : ∀ {text tokens done value rest}, Tokenized text tokens →
      readItems? fuel done tokens = some (value, rest) → FoundItems text done value rest)
    (readFields : ∀ {text tokens done value rest}, Tokenized text tokens →
      readFields? fuel done tokens = some (value, rest) → FoundFields text done value rest)
    (read : readValue? (fuel + 1) tokens = some (value, rest)) : Found text value rest := by
  rw [readValue?.eq_def] at read
  split at read
  next nothing => cases nothing
  next =>
    cases read
    obtain ⟨before, chars, after, blankBefore, written, rfl, more⟩ := tokenized.uncons
    cases written with
    | string quoted => exact ⟨_, before, chars, after, blankBefore, .string quoted, rfl, rfl, more⟩
  next =>
    cases read
    obtain ⟨before, chars, after, blankBefore, written, rfl, more⟩ := tokenized.uncons
    obtain ⟨document, written, same⟩ := literal_written written
    exact ⟨document, before, chars, after, blankBefore, written, same, rfl, more⟩
  next =>
    cases read
    obtain ⟨before, inside, blankBefore, rfl, closing⟩ :=
      tokenized.punctuation fun _ written => by cases written; rfl
    obtain ⟨blank, after, isBlank, rfl, more⟩ :=
      closing.punctuation fun _ written => by cases written; rfl
    exact ⟨_, before, _, after, blankBefore, .emptyArray isBlank, rfl, by simp, more⟩
  next same =>
    cases same
    obtain ⟨before, inside, blankBefore, rfl, items⟩ :=
      tokenized.punctuation fun _ written => by cases written; rfl
    obtain ⟨items, chars, after, written, rfl, rfl, more⟩ := readItems items read
    exact ⟨_, before, _, after, blankBefore, .array written, rfl, by simp, more⟩
  next =>
    cases read
    obtain ⟨before, inside, blankBefore, rfl, closing⟩ :=
      tokenized.punctuation fun _ written => by cases written; rfl
    obtain ⟨blank, after, isBlank, rfl, more⟩ :=
      closing.punctuation fun _ written => by cases written; rfl
    exact ⟨_, before, _, after, blankBefore, .emptyObject isBlank, rfl, by simp, more⟩
  next same =>
    cases same
    obtain ⟨before, inside, blankBefore, rfl, fields⟩ :=
      tokenized.punctuation fun _ written => by cases written; rfl
    obtain ⟨members, chars, after, written, rfl, rfl, more⟩ := readFields fields read
    exact ⟨_, before, _, after, blankBefore, .object written, rfl, by simp, more⟩
  next => cases read

theorem readItems?_found {fuel : Nat} {done : List Value} {value : Value}
    (tokenized : Tokenized text tokens)
    (readValue : ∀ {text tokens value rest}, Tokenized text tokens →
      readValue? fuel tokens = some (value, rest) → Found text value rest)
    (readItems : ∀ {text tokens done value rest}, Tokenized text tokens →
      readItems? fuel done tokens = some (value, rest) → FoundItems text done value rest)
    (read : readItems? (fuel + 1) done tokens = some (value, rest)) :
    FoundItems text done value rest := by
  rw [readItems?] at read
  split at read
  next item behind first =>
    obtain ⟨document, chars, after, written, rfl, rfl, more⟩ :=
      (readValue tokenized first).before fun _ written => by cases written; rfl
    obtain ⟨items, moreChars, last, moreWritten, rfl, rfl, closed⟩ := readItems more read
    refine ⟨document :: items, _, last, .cons written moreWritten, ?_, by simp, closed⟩
    simp [Document.values]
  next item behind first =>
    cases read
    obtain ⟨document, chars, after, written, rfl, rfl, more⟩ :=
      (readValue tokenized first).before fun _ written => by cases written; rfl
    refine ⟨[document], chars, after, .last written, ?_, rfl, more⟩
    simp [Document.values]
  next => cases read

/-- The name of a member and the colon behind it. -/
theorem Tokenized.name {name : Text}
    (tokenized : Tokenized text (.string name :: .colon :: tokens)) :
    ∃ before nameChars blank after, Blank before ∧ Quoted name nameChars ∧ Blank blank ∧
      text = before ++ (nameChars ++ (blank ++ ':' :: after)) ∧ Tokenized after tokens := by
  obtain ⟨before, chars, behind, blankBefore, written, rfl, colon⟩ := tokenized.uncons
  cases written with
  | string quoted =>
      obtain ⟨blank, after, isBlank, rfl, more⟩ :=
        colon.punctuation fun _ written => by cases written; rfl
      exact ⟨before, chars, blank, after, blankBefore, quoted, isBlank, rfl, more⟩

theorem readFields?_found {fuel : Nat} {done : Fields} {value : Value}
    (tokenized : Tokenized text tokens)
    (readValue : ∀ {text tokens value rest}, Tokenized text tokens →
      readValue? fuel tokens = some (value, rest) → Found text value rest)
    (readFields : ∀ {text tokens done value rest}, Tokenized text tokens →
      readFields? fuel done tokens = some (value, rest) → FoundFields text done value rest)
    (read : readFields? (fuel + 1) done tokens = some (value, rest)) :
    FoundFields text done value rest := by
  rw [readFields?.eq_def] at read
  split at read
  next same =>
    cases same
    obtain ⟨before, nameChars, blank, inside, blankBefore, quoted, isBlank, rfl, member⟩ :=
      tokenized.name
    split at read
    next behind first =>
      obtain ⟨document, chars, after, written, rfl, rfl, more⟩ :=
        (readValue member first).before fun _ written => by cases written; rfl
      obtain ⟨members, moreChars, last, moreWritten, rfl, rfl, closed⟩ := readFields more read
      exact ⟨(_, document) :: members, _, last,
        .cons (.intro blankBefore quoted isBlank written) moreWritten, rfl, by simp, closed⟩
    next behind first =>
      cases read
      obtain ⟨document, chars, after, written, rfl, rfl, more⟩ :=
        (readValue member first).before fun _ written => by cases written; rfl
      exact ⟨[(_, document)], _, after, .last (.intro blankBefore quoted isBlank written), rfl,
        by simp, more⟩
    next => cases read
  next => cases read

/-- What is read is written, for values, items and fields at once, by induction on the fuel. -/
theorem read_found (fuel : Nat) :
    (∀ {text tokens value rest}, Tokenized text tokens →
      readValue? fuel tokens = some (value, rest) → Found text value rest) ∧
    (∀ {text tokens done value rest}, Tokenized text tokens →
      readItems? fuel done tokens = some (value, rest) → FoundItems text done value rest) ∧
    (∀ {text tokens done value rest}, Tokenized text tokens →
      readFields? fuel done tokens = some (value, rest) → FoundFields text done value rest) := by
  induction fuel with
  | zero =>
      refine ⟨?_, ?_, ?_⟩
      · intro text tokens value rest _ read
        cases tokens <;> cases read
      · intro text tokens done value rest _ read
        cases read
      · intro text tokens done value rest _ read
        cases tokens <;> cases read
  | succ fuel ih =>
      obtain ⟨readValue, readItems, readFields⟩ := ih
      exact ⟨fun tokenized => readValue?_found tokenized readItems readFields,
        fun tokenized => readItems?_found tokenized readValue readItems,
        fun tokenized => readFields?_found tokenized readValue readFields⟩

end Recovering

theorem ofTokens?_eq_some_iff {tokens : List Token} {value : Value} :
    Value.ofTokens? tokens = some value ↔
      readValue? (tokens.length + 1) tokens = some (value, []) := by
  rw [Value.ofTokens?]
  split
  next read => simp [read]
  next other =>
    constructor
    · nofun
    · intro read
      exact (other _ read).elim

/-- A text has a value just when it writes a document, and the value is that of the document. -/
theorem Value.ofText?_eq_some_iff {text : String} {value : Value} :
    Value.ofText? text = some value ↔
      ∃ document, Writes text document ∧ document.value = value := by
  simp only [Value.ofText?, bind, Option.bind_eq_some_iff, Token.ofText?_eq_some_iff,
    ofTokens?_eq_some_iff]
  constructor
  · rintro ⟨tokens, tokenized, read⟩
    obtain ⟨document, before, chars, after, blankBefore, written, same, split, ended⟩ :=
      (read_found _).1 tokenized read
    refine ⟨document, ?_, same⟩
    rw [Writes, split]
    exact .intro blankBefore written (tokenized_nil_iff.mp ended)
  · rintro ⟨document, writes, rfl⟩
    obtain ⟨tokens, splits, _, reads⟩ := Spaced.tokens writes
    refine ⟨tokens, ?_, ?_⟩
    · have tokenized := splits [] [] nofun (.nil rfl)
      rwa [List.append_nil, List.append_nil] at tokenized
    · have read := reads (tokens.length + 1) [] (Nat.le_succ _)
      rwa [List.append_nil] at read

end NodeConsole.Json
