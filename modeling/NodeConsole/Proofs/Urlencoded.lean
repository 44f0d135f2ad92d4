import NodeConsole.Proofs.FormCoding
import NodeConsole.Proofs.Reading

/-!
The standard reading of URL-encoded forms, over bytes: they are split at ampersands and at the first
equals sign, plus signs are spaces, escapes are bytes, and what comes of a part is read as UTF-8.
Since no character outside ASCII has a byte in common with it, the bytes of a text may as well be
split and unescaped as its characters (`parse_eq`).
-/

namespace NodeConsole

namespace Urlencoded

def hexDigit? (byte : UInt8) : Option Nat :=
  if 0x30 ≤ byte ∧ byte ≤ 0x39 then some (byte.toNat - 0x30)
  else if 0x41 ≤ byte ∧ byte ≤ 0x46 then some (byte.toNat - 0x37)
  else if 0x61 ≤ byte ∧ byte ≤ 0x66 then some (byte.toNat - 0x57)
  else none

def escaped? (high low : UInt8) : Option UInt8 :=
  match hexDigit? high, hexDigit? low with
  | some upper, some lower => some (upper * 16 + lower).toUInt8
  | _, _ => none

def percentDecode : List UInt8 → List UInt8
  | byte :: high :: low :: rest =>
    match if byte = 0x25 then escaped? high low else none with
    | some value => value :: percentDecode rest
    | none => byte :: percentDecode (high :: low :: rest)
  | bytes => bytes

def plusToSpace (byte : UInt8) : UInt8 :=
  if byte = 0x2B then 0x20 else byte

def decodePart (part : List UInt8) : String :=
  String.ofList (Utf8.decodeLossy (percentDecode (part.map plusToSpace)))

def decodePair (sequence : List UInt8) : String × String :=
  (decodePart (sequence.takeWhile (· ≠ 0x3D)),
    decodePart ((sequence.dropWhile (· ≠ 0x3D)).drop 1))

def pairs (bytes : List UInt8) : List (String × String) :=
  ((bytes.splitOn 0x26).filter fun sequence => !sequence.isEmpty).map decodePair

def dropMark : List Char → List Char
  | '?' :: rest => rest
  | text => text

/-- The pairs in a text, of which one question mark in front is passed over. -/
def parse (text : List Char) : List (String × String) :=
  pairs (Utf8.encode (dropMark text))

end Urlencoded

namespace Utf8

/-- A character outside ASCII has no byte in it. -/
theorem utf8EncodeChar_large {char : Char} (large : 0x80 ≤ char.toNat) {byte : UInt8}
    (among : byte ∈ String.utf8EncodeChar char) : 0x80 ≤ byte.toNat := by
  have valid := toNat_valid char
  rw [utf8EncodeChar_eq, if_neg (by omega)] at among
  split at among
  · simp only [List.mem_cons, List.not_mem_nil, or_false] at among
    rcases among with rfl | rfl
    all_goals
      rw [toNat_toUInt8 _ (by omega)]
      omega
  · split at among
    · simp only [List.mem_cons, List.not_mem_nil, or_false] at among
      rcases among with rfl | rfl | rfl
      all_goals
        rw [toNat_toUInt8 _ (by omega)]
        omega
    · simp only [List.mem_cons, List.not_mem_nil, or_false] at among
      rcases among with rfl | rfl | rfl | rfl
      all_goals
        rw [toNat_toUInt8 _ (by omega)]
        omega

theorem not_mem_utf8EncodeChar {char other : Char} (ascii : char.toNat < 0x80)
    (different : other ≠ char) : char.toNat.toUInt8 ∉ String.utf8EncodeChar other := by
  intro among
  have value := toNat_toUInt8 char.toNat (by omega)
  by_cases small : other.toNat < 0x80
  · rw [utf8EncodeChar_ascii small, List.mem_singleton, ← UInt8.toNat_inj, value,
      toNat_toUInt8 _ (by omega)] at among
    exact different (Char.toNat_inj.mp among.symm)
  · have large := utf8EncodeChar_large (by omega) among
    omega

theorem encode_cons (char : Char) (text : List Char) :
    encode (char :: text) = String.utf8EncodeChar char ++ encode text := by
  simp [encode]

theorem splitOn_append {sep : UInt8} {block : List UInt8} (free : sep ∉ block)
    (rest : List UInt8) :
    (block ++ rest).splitOn sep = (rest.splitOn sep).modifyHead (block ++ ·) := by
  induction block with
  | nil =>
      rw [List.nil_append]
      cases rest.splitOn sep <;> rfl
  | cons first block ih =>
      simp only [List.mem_cons, not_or] at free
      have other : (first == sep) = false := beq_eq_false_iff_ne.mpr (Ne.symm free.1)
      rw [List.cons_append, List.splitOn_cons_eq_if_modifyHead, other, ih free.2]
      cases rest.splitOn sep <;> rfl

/-! Signs of ASCII stand at the same places in a text and in its bytes. -/

theorem encode_splitOn {char : Char} (ascii : char.toNat < 0x80) (text : List Char) :
    (encode text).splitOn char.toNat.toUInt8 = (text.splitOn char).map encode := by
  induction text with
  | nil => rfl
  | cons first rest ih =>
      rw [encode_cons]
      by_cases same : first = char
      · subst same
        rw [utf8EncodeChar_ascii ascii, List.singleton_append,
          List.splitOn_cons_eq_if_modifyHead, List.splitOn_cons_eq_if_modifyHead]
        simp only [beq_self_eq_true, if_true, List.map_cons, ih]
        rfl
      · have other : (first == char) = false := beq_eq_false_iff_ne.mpr same
        rw [splitOn_append (not_mem_utf8EncodeChar ascii same), ih,
          List.splitOn_cons_eq_if_modifyHead, other]
        cases rest.splitOn char with
        | nil => rfl
        | cons sequence others =>
            simp only [List.map_cons, List.modifyHead_cons, Bool.false_eq_true, if_false,
              encode_cons]

theorem utf8EncodeChar_ne {char other : Char} (ascii : char.toNat < 0x80)
    (different : other ≠ char) :
    ∀ byte ∈ String.utf8EncodeChar other, decide (byte ≠ char.toNat.toUInt8) = true := by
  intro byte among
  have free := not_mem_utf8EncodeChar ascii different
  exact decide_eq_true (ne_of_mem_of_not_mem among free)

theorem encode_takeWhile {char : Char} (ascii : char.toNat < 0x80) (text : List Char) :
    (encode text).takeWhile (· ≠ char.toNat.toUInt8) = encode (text.takeWhile (· ≠ char)) := by
  induction text with
  | nil => rfl
  | cons first rest ih =>
      rw [encode_cons]
      by_cases same : first = char
      · subst same
        rw [utf8EncodeChar_ascii ascii]
        simp [encode]
      · rw [List.takeWhile_append_of_pos (utf8EncodeChar_ne ascii same), ih]
        simp [same, encode_cons]

theorem encode_dropWhile {char : Char} (ascii : char.toNat < 0x80) (text : List Char) :
    (encode text).dropWhile (· ≠ char.toNat.toUInt8) = encode (text.dropWhile (· ≠ char)) := by
  induction text with
  | nil => rfl
  | cons first rest ih =>
      by_cases same : first = char
      · subst same
        rw [encode_cons, utf8EncodeChar_ascii ascii]
        simp [encode_cons, utf8EncodeChar_ascii ascii]
      · rw [encode_cons, List.dropWhile_append_of_pos (utf8EncodeChar_ne ascii same), ih]
        simp [same]

theorem encode_drop_one {char : Char} (ascii : char.toNat < 0x80) (text : List Char) :
    ((encode text).dropWhile (· ≠ char.toNat.toUInt8)).drop 1 =
      encode ((text.dropWhile (· ≠ char)).drop 1) := by
  rw [encode_dropWhile ascii]
  cases left : text.dropWhile (· ≠ char) with
  | nil => rfl
  | cons first rest =>
      have stopped : first = char := by
        have failed := List.head?_dropWhile_not (· ≠ char) text
        rw [left] at failed
        simpa using failed
      rw [stopped, encode_cons, utf8EncodeChar_ascii ascii]
      rfl

theorem encode_isEmpty (text : List Char) : (encode text).isEmpty = text.isEmpty := by
  cases text with
  | nil => rfl
  | cons first rest =>
      obtain ⟨byte, more, encoded, _⟩ := utf8EncodeChar_starts first
      rw [encode_cons, encoded]
      rfl

theorem encode_plusToSpace (text : List Char) :
    (encode text).map Urlencoded.plusToSpace = encode (text.map Form.plusToSpace) := by
  induction text with
  | nil => rfl
  | cons first rest ih =>
      rw [encode_cons, List.map_append, ih, List.map_cons, encode_cons]
      by_cases plus : first = '+'
      · subst plus
        rfl
      · have free : (0x2B : UInt8) ∉ String.utf8EncodeChar first :=
          not_mem_utf8EncodeChar (show '+'.toNat < 0x80 by decide) plus
        have kept : (String.utf8EncodeChar first).map Urlencoded.plusToSpace =
            String.utf8EncodeChar first := by
          rw [List.map_congr_left (g := id), List.map_id]
          intro byte among
          rw [Urlencoded.plusToSpace, if_neg (ne_of_mem_of_not_mem among free), id]
        rw [kept, Form.plusToSpace, if_neg plus]

end Utf8

namespace Percent

/-- No escape starts with this character. -/
def Plain (char : Char) (rest : List Char) : Prop :=
  ∀ high low after, char = '%' → rest = high :: low :: after → escape? high low = none

theorem piecesFrom_plain {char : Char} {rest : List Char} (plain : Plain char rest)
    (done : List Piece) :
    piecesFrom done (char :: rest) = piecesFrom (.char char :: done) rest := by
  by_cases percent : char = '%'
  · subst percent
    match rest with
    | [] => rfl
    | [_] => rfl
    | high :: low :: after =>
        have none := plain high low after rfl rfl
        simp only [piecesFrom, none]
  · exact piecesFrom_char done percent rest

theorem piecesFrom_found {high low : Char} {byte : UInt8} (found : escape? high low = some byte)
    (done : List Piece) (rest : List Char) :
    piecesFrom done ('%' :: high :: low :: rest) = piecesFrom (.byte byte :: done) rest := by
  rw [piecesFrom, found]

theorem pieces_induction {motive : List Char → Prop} (nil : motive [])
    (escape : ∀ high low rest byte, escape? high low = some byte → motive rest →
      motive ('%' :: high :: low :: rest))
    (plain : ∀ char rest, Plain char rest → motive rest → motive (char :: rest))
    (text : List Char) : motive text := by
  refine piecesFrom.induct (fun _ text => motive text) (fun _ => nil) ?_ ?_ ?_ [] text
  · intro done high low rest byte found ih
    exact escape high low rest byte found ih
  · intro done high low rest none ih
    refine plain '%' (high :: low :: rest) ?_ ih
    rintro _ _ _ _ ⟨⟩
    exact none
  · intro done char rest noEscape ih
    refine plain char rest ?_ ih
    rintro high low after rfl rfl
    exact absurd rfl (noEscape high low after rfl)

theorem piecesFrom_eq (done : List Piece) (text : List Char) :
    piecesFrom done text = done.reverse ++ pieces text := by
  induction text using pieces_induction generalizing done with
  | nil => simp [pieces, piecesFrom]
  | escape high low rest byte found ih =>
      rw [pieces, piecesFrom_found found, piecesFrom_found found, ih, ih [.byte byte]]
      simp
  | plain char rest plain ih =>
      rw [pieces, piecesFrom_plain plain, piecesFrom_plain plain, ih, ih [.char char]]
      simp

theorem pieces_escape {high low : Char} {byte : UInt8} (found : escape? high low = some byte)
    (rest : List Char) : pieces ('%' :: high :: low :: rest) = .byte byte :: pieces rest := by
  rw [pieces, piecesFrom_found found, piecesFrom_eq]
  rfl

theorem pieces_plain {char : Char} {rest : List Char} (plain : Plain char rest) :
    pieces (char :: rest) = .char char :: pieces rest := by
  rw [pieces, piecesFrom_plain plain, piecesFrom_eq]
  rfl

theorem escape?_digits {high low : Char} (escape : (escape? high low).isSome = true) :
    (digitValue? 16 high).isSome = true ∧ (digitValue? 16 low).isSome = true := by
  rw [escape?] at escape
  split at escape
  · rename_i upper lower upperDigit lowerDigit
    simp [upperDigit, lowerDigit]
  · cases escape

theorem digitValue?_large {char : Char} (large : 0x80 ≤ char.toNat) :
    digitValue? 16 char = none := by
  have small (bound : Char) (ascii : bound.toNat < 0x80) : ¬ char ≤ bound := by
    intro below
    have order : char.toNat ≤ bound.toNat := below
    omega
  simp only [digitValue?, isDigit, small '9' (by decide), small 'f' (by decide),
    small 'F' (by decide), decide_false, Bool.and_false, Bool.false_eq_true, and_false, if_false]
  rfl

theorem hexDigit?_ascii {char : Char} (ascii : char.toNat < 0x80) :
    Urlencoded.hexDigit? char.toNat.toUInt8 = digitValue? 16 char := by
  have digits : ∀ value : Fin 128,
      Urlencoded.hexDigit? value.val.toUInt8 = digitValue? 16 (Char.ofNat value.val) := by
    decide
  have digit := digits ⟨char.toNat, ascii⟩
  rwa [Char.ofNat_toNat] at digit

theorem hexDigit?_large {byte : UInt8} (large : 0x80 ≤ byte.toNat) :
    Urlencoded.hexDigit? byte = none := by
  have above (bound : UInt8) (small : bound.toNat < 0x80) : ¬ byte ≤ bound := by
    rw [UInt8.le_iff_toNat_le]
    omega
  simp only [Urlencoded.hexDigit?, above 0x39 (by decide), above 0x46 (by decide),
    above 0x66 (by decide), and_false, if_false]

/-- A character and its first byte are the same digit, or none. -/
theorem hexDigit?_utf8EncodeChar (char : Char) :
    ∃ byte more, String.utf8EncodeChar char = byte :: more ∧
      Urlencoded.hexDigit? byte = digitValue? 16 char ∧
      ((digitValue? 16 char).isSome = true → more = []) := by
  by_cases ascii : char.toNat < 0x80
  · exact ⟨_, [], Utf8.utf8EncodeChar_ascii ascii, hexDigit?_ascii ascii, fun _ => rfl⟩
  · have none := digitValue?_large (show 0x80 ≤ char.toNat by omega)
    obtain ⟨byte, more, encoded, _⟩ := Utf8.utf8EncodeChar_starts char
    have large : 0x80 ≤ byte.toNat :=
      Utf8.utf8EncodeChar_large (by omega) (encoded ▸ List.mem_cons_self)
    refine ⟨byte, more, encoded, ?_, ?_⟩
    · rw [none, hexDigit?_large large]
    · rw [none]
      exact nofun

end Percent

namespace Urlencoded

theorem percentDecode_cons {byte : UInt8} (plain : byte ≠ 0x25) (rest : List UInt8) :
    percentDecode (byte :: rest) = byte :: percentDecode rest := by
  match rest with
  | [] => rfl
  | [_] => rfl
  | _ :: _ :: _ => rw [percentDecode, if_neg plain]

theorem percentDecode_append {block : List UInt8} (plain : 0x25 ∉ block) (rest : List UInt8) :
    percentDecode (block ++ rest) = block ++ percentDecode rest := by
  induction block with
  | nil => rfl
  | cons first block ih =>
      simp only [List.mem_cons, not_or] at plain
      rw [List.cons_append, percentDecode_cons (Ne.symm plain.1), ih plain.2, List.cons_append]

theorem percentDecode_percent {rest : List UInt8}
    (noEscape : ∀ high low more, rest = high :: low :: more → escaped? high low = none) :
    percentDecode (0x25 :: rest) = 0x25 :: percentDecode rest := by
  match rest with
  | [] => rfl
  | [_] => rfl
  | high :: low :: more =>
      have none := noEscape high low more rfl
      simp only [percentDecode, if_true, none]

theorem escaped?_encode {first second : Char} {rest : List Char} {high low : UInt8}
    {more : List UInt8} (encoded : Utf8.encode (first :: second :: rest) = high :: low :: more) :
    escaped? high low = Percent.escape? first second := by
  obtain ⟨one, tail, firstly, digit, alone⟩ := Percent.hexDigit?_utf8EncodeChar first
  obtain ⟨other, _, secondly, otherDigit, _⟩ := Percent.hexDigit?_utf8EncodeChar second
  rw [Utf8.encode_cons, Utf8.encode_cons, firstly, secondly] at encoded
  -- a character that is no digit may have several bytes, and then none of them is one
  cases value : digitValue? 16 first with
  | none =>
      obtain ⟨rfl, _⟩ := List.cons.inj encoded
      simp only [escaped?, digit, Percent.escape?, value]
  | some upper =>
      rw [alone (by rw [value]; rfl)] at encoded
      cases encoded
      cases lower : digitValue? 16 second <;>
        simp only [escaped?, digit, otherDigit, Percent.escape?, value, lower]

theorem percentDecode_encode_escape {first second : Char} {byte : UInt8}
    (escape : Percent.escape? first second = some byte) (rest : List Char) :
    percentDecode (Utf8.encode ('%' :: first :: second :: rest)) =
      byte :: percentDecode (Utf8.encode rest) := by
  obtain ⟨one, tail, firstly, _, alone⟩ := Percent.hexDigit?_utf8EncodeChar first
  obtain ⟨other, more, secondly, _, otherAlone⟩ := Percent.hexDigit?_utf8EncodeChar second
  have digits := Percent.escape?_digits (by rw [escape]; rfl)
  have bytes : Utf8.encode (first :: second :: rest) = one :: other :: Utf8.encode rest := by
    rw [Utf8.encode_cons, Utf8.encode_cons, firstly, secondly, alone digits.1,
      otherAlone digits.2]
    rfl
  have value : escaped? one other = some byte := (escaped?_encode bytes).trans escape
  have percent : String.utf8EncodeChar '%' = [0x25] := by decide
  rw [Utf8.encode_cons, percent, bytes, List.singleton_append]
  simp only [percentDecode, if_true, value]

theorem percentDecode_encode_plain {char : Char} {rest : List Char}
    (plain : Percent.Plain char rest) :
    percentDecode (Utf8.encode (char :: rest)) =
      String.utf8EncodeChar char ++ percentDecode (Utf8.encode rest) := by
  rw [Utf8.encode_cons]
  by_cases same : char = '%'
  · subst same
    have percent : String.utf8EncodeChar '%' = [0x25] := by decide
    rw [percent]
    apply percentDecode_percent
    intro high low more encoded
    match rest with
    | [] => cases encoded
    | [last] =>
        obtain ⟨one, tail, bytes, digit, alone⟩ := Percent.hexDigit?_utf8EncodeChar last
        rw [Utf8.encode_cons, bytes] at encoded
        cases value : digitValue? 16 last with
        | none =>
            obtain ⟨rfl, _⟩ := List.cons.inj encoded
            simp only [escaped?, digit, value]
        | some upper =>
            rw [alone (by rw [value]; rfl)] at encoded
            cases encoded
    | first :: second :: others =>
        rw [escaped?_encode encoded, plain first second others rfl rfl]
  · exact percentDecode_append
      (Utf8.not_mem_utf8EncodeChar (show '%'.toNat < 0x80 by decide) same) _

theorem percentDecode_encode (text : List Char) :
    percentDecode (Utf8.encode text) = (Percent.pieces text).flatMap Percent.Piece.bytes := by
  induction text using Percent.pieces_induction with
  | nil => rfl
  | escape high low rest byte found ih =>
      rw [percentDecode_encode_escape found, Percent.pieces_escape found, List.flatMap_cons, ih]
      rfl
  | plain char rest plain ih =>
      rw [percentDecode_encode_plain plain, Percent.pieces_plain plain, List.flatMap_cons, ih]
      rfl

/-! The standard reading told by characters. -/

def readPart (part : List Char) : String :=
  String.ofList (Utf8.decodeLossy (Percent.decode (part.map Form.plusToSpace)))

def readPair (sequence : List Char) : String × String :=
  (readPart (sequence.takeWhile (· ≠ '=')), readPart ((sequence.dropWhile (· ≠ '=')).drop 1))

def sequences (text : List Char) : List (List Char) :=
  ((dropMark text).splitOn '&').filter fun sequence => !sequence.isEmpty

theorem decodePart_encode (part : List Char) : decodePart (Utf8.encode part) = readPart part := by
  rw [decodePart, Utf8.encode_plusToSpace, percentDecode_encode, readPart, Percent.decode]

theorem decodePair_encode (sequence : List Char) :
    decodePair (Utf8.encode sequence) = readPair sequence := by
  have ascii : '='.toNat < 0x80 := by decide
  have name := Utf8.encode_takeWhile ascii sequence
  have value := Utf8.encode_drop_one ascii sequence
  rw [decodePair, readPair, ← decodePart_encode, ← decodePart_encode, ← name, ← value]
  rfl

theorem parse_eq (text : List Char) : parse text = (sequences text).map readPair := by
  have split : (Utf8.encode (dropMark text)).splitOn 0x26 =
      ((dropMark text).splitOn '&').map Utf8.encode :=
    Utf8.encode_splitOn (show '&'.toNat < 0x80 by decide) _
  rw [parse, pairs, split, List.filter_map, List.map_map, sequences]
  simp only [Function.comp_def, Utf8.encode_isEmpty, decodePair_encode]

example : parse "?a=%41+b&&c%2".toList = [("a", "A b"), ("c%2", "")] := by decide +kernel

end Urlencoded

end NodeConsole
