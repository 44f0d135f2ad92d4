import Mathlib.Data.List.Basic
import NodeConsole.Text.Utf8

/-!
Characters written out and read back. A text of characters, as opposed to one with a half of a
surrogate pair, comes back from its 16-bit units (`toChars_ofChars`) and from its bytes
(`decode_encode`), wherever it stands among others.
-/

namespace NodeConsole

theorem toNat_valid (char : Char) :
    char.toNat < 0xD800 ∨ 0xDFFF < char.toNat ∧ char.toNat < 0x110000 :=
  char.valid

namespace Text

theorem isHigh_iff (unit : UInt16) :
    isHigh unit = true ↔ 0xD800 ≤ unit.toNat ∧ unit.toNat ≤ 0xDBFF := by
  simp [isHigh, UInt16.le_iff_toNat_le]

theorem isLow_iff (unit : UInt16) :
    isLow unit = true ↔ 0xDC00 ≤ unit.toNat ∧ unit.toNat ≤ 0xDFFF := by
  simp [isLow, UInt16.le_iff_toNat_le]

theorem itemsFrom_unit (done : List Item) (char : Char) (small : char.toNat < 0x10000)
    (rest : List UInt16) :
    itemsFrom done (char.toNat.toUInt16 :: rest) = itemsFrom (.char char :: done) rest := by
  have value : char.toNat.toUInt16.toNat = char.toNat := by
    rw [Nat.toUInt16, UInt16.toNat_ofNat']
    omega
  have valid := toNat_valid char
  have notHigh : isHigh char.toNat.toUInt16 = false := by
    rw [← Bool.not_eq_true, isHigh_iff, value]
    omega
  have notLow : isLow char.toNat.toUInt16 = false := by
    rw [← Bool.not_eq_true, isLow_iff, value]
    omega
  have alone : single char.toNat.toUInt16 = .char char := by
    simp only [single, notHigh, notLow, Bool.or_self, Bool.false_eq_true, if_false, value,
      Char.ofNat_toNat]
  cases rest with
  | nil => simp only [itemsFrom, alone]
  | cons next rest =>
      simp only [itemsFrom, notHigh, Bool.false_and, Bool.false_eq_true, if_false, alone]

theorem itemsFrom_pair (done : List Item) (char : Char) (large : 0x10000 ≤ char.toNat)
    (rest : List UInt16) :
    itemsFrom done ((0xD800 + (char.toNat - 0x10000) / 0x400).toUInt16 ::
        (0xDC00 + (char.toNat - 0x10000) % 0x400).toUInt16 :: rest) =
      itemsFrom (.char char :: done) rest := by
  have valid := toNat_valid char
  have high : (0xD800 + (char.toNat - 0x10000) / 0x400).toUInt16.toNat =
      0xD800 + (char.toNat - 0x10000) / 0x400 := by
    rw [Nat.toUInt16, UInt16.toNat_ofNat']
    omega
  have low : (0xDC00 + (char.toNat - 0x10000) % 0x400).toUInt16.toNat =
      0xDC00 + (char.toNat - 0x10000) % 0x400 := by
    rw [Nat.toUInt16, UInt16.toNat_ofNat']
    omega
  have isPair : (isHigh (0xD800 + (char.toNat - 0x10000) / 0x400).toUInt16 &&
      isLow (0xDC00 + (char.toNat - 0x10000) % 0x400).toUInt16) = true := by
    rw [Bool.and_eq_true, isHigh_iff, isLow_iff, high, low]
    omega
  have whole : 0x10000 + (0xD800 + (char.toNat - 0x10000) / 0x400 - 0xD800) * 0x400 +
      (0xDC00 + (char.toNat - 0x10000) % 0x400 - 0xDC00) = char.toNat := by
    omega
  simp only [itemsFrom, isPair, if_true, joined, high, low, whole, Char.ofNat_toNat]

theorem itemsFrom_ofChar (done : List Item) (char : Char) (rest : List UInt16) :
    itemsFrom done (ofChar char ++ rest) = itemsFrom (.char char :: done) rest := by
  by_cases small : char.toNat < 0x10000
  · simp only [ofChar, small, if_true]
    exact itemsFrom_unit done char small rest
  · simp only [ofChar, small, if_false]
    exact itemsFrom_pair done char (Nat.le_of_not_lt small) rest

theorem itemsFrom_ofChars (done : List Item) (chars : List Char) :
    itemsFrom done (chars.flatMap ofChar) = done.reverse ++ chars.map .char := by
  induction chars generalizing done with
  | nil => simp [itemsFrom]
  | cons char chars ih => simp [itemsFrom_ofChar, ih]

theorem itemsFrom_append (done more : List Item) (units : List UInt16) :
    itemsFrom (done ++ more) units = more.reverse ++ itemsFrom done units := by
  induction done, units using itemsFrom.induct with
  | case1 done => simp [itemsFrom]
  | case2 done unit => simp [itemsFrom]
  | case3 done unit next rest pair ih =>
      rw [itemsFrom, itemsFrom, if_pos pair, if_pos pair, ← ih, List.cons_append]
  | case4 done unit next rest alone ih =>
      rw [itemsFrom, itemsFrom, if_neg alone, if_neg alone, ← ih, List.cons_append]

@[simp] theorem items_ofChars (chars : List Char) : (ofChars chars).items = chars.map .char :=
  itemsFrom_ofChars [] chars

@[simp] theorem toChars_ofChars (chars : List Char) : (ofChars chars).toChars = chars := by
  rw [toChars, items_ofChars, List.map_map]
  exact List.map_id chars

theorem toChars_cons (char : Char) (text : Text) :
    (⟨ofChar char ++ text.units⟩ : Text).toChars = char :: text.toChars := by
  have items : (⟨ofChar char ++ text.units⟩ : Text).items = .char char :: text.items := by
    rw [Text.items, itemsFrom_ofChar]
    exact itemsFrom_append [] [.char char] text.units
  rw [toChars, items, List.map_cons]
  rfl

@[simp] theorem toString_ofString (text : String) : (ofString text).toString = text := by
  rw [toString, ofString, toChars_ofChars, String.ofList_toList]

theorem ofString_injective {first second : String} (same : ofString first = ofString second) :
    first = second := by
  rw [← toString_ofString first, same, toString_ofString]

end Text

namespace Utf8

theorem toNat_toUInt8 (value : Nat) (small : value < 256) : value.toUInt8.toNat = value := by
  rw [Nat.toUInt8, UInt8.toNat_ofNat', Nat.mod_eq_of_lt small]

theorem step_next {lacking : Nat} (more : lacking ≠ 0) (bits : Nat) {least greatest byte : UInt8}
    (above : least.toNat ≤ byte.toNat) (below : byte.toNat ≤ greatest.toNat) :
    step { lacking, bits, least, greatest } byte =
      if lacking = 1 then ({}, [some (Char.ofNat (bits * 64 + (byte.toNat - 0x80)))])
      else ({ lacking := lacking - 1, bits := bits * 64 + (byte.toNat - 0x80) }, []) := by
  have inside : least ≤ byte ∧ byte ≤ greatest := by
    rw [UInt8.le_iff_toNat_le, UInt8.le_iff_toNat_le]
    exact ⟨above, below⟩
  rw [step, if_neg more, if_pos inside]

theorem first_eq (byte : UInt8) :
    first byte =
      if byte.toNat < 0x80 then ({}, [some (Char.ofNat byte.toNat)])
      else if byte.toNat < 0xC2 then ({}, [none])
      else if byte.toNat < 0xE0 then ({ lacking := 1, bits := byte.toNat - 0xC0 }, [])
      else if byte.toNat < 0xF0 then
        ({ lacking := 2, bits := byte.toNat - 0xE0
           least := if byte.toNat = 0xE0 then 0xA0 else 0x80
           greatest := if byte.toNat = 0xED then 0x9F else 0xBF }, [])
      else if byte.toNat < 0xF5 then
        ({ lacking := 3, bits := byte.toNat - 0xF0
           least := if byte.toNat = 0xF0 then 0x90 else 0x80
           greatest := if byte.toNat = 0xF4 then 0x8F else 0xBF }, [])
      else ({}, [none]) := by
  simp only [first, UInt8.lt_iff_toNat_lt, ← UInt8.toNat_inj]
  rfl

theorem step_start (byte : UInt8) : step {} byte = first byte := by
  rfl

theorem decodeFrom_one (done : List (Option Char)) (char : Char) (small : char.toNat ≤ 0x7F)
    (rest : List UInt8) :
    decodeFrom {} done (char.toNat.toUInt8 :: rest) = decodeFrom {} (some char :: done) rest := by
  have value : char.toNat.toUInt8.toNat = char.toNat := toNat_toUInt8 _ (by omega)
  rw [decodeFrom, step_start, first_eq, value, if_pos (by omega), Char.ofNat_toNat]
  rfl

theorem step_tail {lacking : Nat} (more : lacking ≠ 0) (bits value : Nat) :
    step { lacking, bits } (value % 64 + 128).toUInt8 =
      if lacking = 1 then ({}, [some (Char.ofNat (bits * 64 + value % 64))])
      else ({ lacking := lacking - 1, bits := bits * 64 + value % 64 }, []) := by
  have tail := toNat_toUInt8 (value % 64 + 128) (by omega)
  have least : (0x80 : UInt8).toNat ≤ (value % 64 + 128).toUInt8.toNat := by
    rw [tail]
    exact Nat.le_add_left 128 _
  have greatest : (value % 64 + 128).toUInt8.toNat ≤ (0xBF : UInt8).toNat := by
    rw [tail]
    change value % 64 + 128 ≤ 191
    omega
  rw [step_next more bits least greatest, tail, Nat.add_sub_cancel]

theorem decodeFrom_two (done : List (Option Char)) (char : Char) (large : 0x7F < char.toNat)
    (small : char.toNat ≤ 0x7FF) (rest : List UInt8) :
    decodeFrom {} done ((char.toNat / 64 % 32 + 192).toUInt8 ::
        (char.toNat % 64 + 128).toUInt8 :: rest) =
      decodeFrom {} (some char :: done) rest := by
  have lead := toNat_toUInt8 (char.toNat / 64 % 32 + 192) (by omega)
  have whole : (char.toNat / 64 % 32 + 192 - 0xC0) * 64 + char.toNat % 64 = char.toNat := by
    omega
  rw [decodeFrom, step_start, first_eq, lead, if_neg (by omega), if_neg (by omega),
    if_pos (by omega), decodeFrom, step_tail Nat.one_ne_zero, if_pos rfl, whole,
    Char.ofNat_toNat]
  rfl

theorem decodeFrom_three (done : List (Option Char)) (char : Char) (large : 0x7FF < char.toNat)
    (small : char.toNat ≤ 0xFFFF) (rest : List UInt8) :
    decodeFrom {} done ((char.toNat / 4096 % 16 + 224).toUInt8 ::
        (char.toNat / 64 % 64 + 128).toUInt8 :: (char.toNat % 64 + 128).toUInt8 :: rest) =
      decodeFrom {} (some char :: done) rest := by
  have valid := toNat_valid char
  have lead := toNat_toUInt8 (char.toNat / 4096 % 16 + 224) (by omega)
  -- `E0` asks for a second byte that two bytes could not have given, `ED` for no surrogate
  have second := toNat_toUInt8 (char.toNat / 64 % 64 + 128) (by omega)
  have least : (if char.toNat / 4096 % 16 + 224 = 0xE0 then (0xA0 : UInt8) else 0x80).toNat ≤
      (char.toNat / 64 % 64 + 128).toUInt8.toNat := by
    rw [second]
    split
    · change 160 ≤ _
      omega
    · exact Nat.le_add_left 128 _
  have greatest : (char.toNat / 64 % 64 + 128).toUInt8.toNat ≤
      (if char.toNat / 4096 % 16 + 224 = 0xED then (0x9F : UInt8) else 0xBF).toNat := by
    rw [second]
    split
    · change _ ≤ 159
      omega
    · change _ ≤ 191
      omega
  have whole : ((char.toNat / 4096 % 16 + 224 - 0xE0) * 64 + (char.toNat / 64 % 64 + 128 - 0x80)) *
      64 + char.toNat % 64 = char.toNat := by
    omega
  rw [decodeFrom, step_start, first_eq, lead, if_neg (by omega), if_neg (by omega),
    if_neg (by omega), if_pos (by omega), decodeFrom,
    step_next (Nat.succ_ne_zero 1) _ least greatest, second, if_neg (by decide), decodeFrom,
    step_tail Nat.one_ne_zero, if_pos rfl, whole, Char.ofNat_toNat]
  rfl

theorem decodeFrom_four (done : List (Option Char)) (char : Char) (large : 0xFFFF < char.toNat)
    (rest : List UInt8) :
    decodeFrom {} done ((char.toNat / 262144 % 8 + 240).toUInt8 ::
        (char.toNat / 4096 % 64 + 128).toUInt8 :: (char.toNat / 64 % 64 + 128).toUInt8 ::
        (char.toNat % 64 + 128).toUInt8 :: rest) =
      decodeFrom {} (some char :: done) rest := by
  have valid := toNat_valid char
  have lead := toNat_toUInt8 (char.toNat / 262144 % 8 + 240) (by omega)
  -- `F0` asks for what three bytes could not have given, `F4` for nothing past the last character
  have second := toNat_toUInt8 (char.toNat / 4096 % 64 + 128) (by omega)
  have least : (if char.toNat / 262144 % 8 + 240 = 0xF0 then (0x90 : UInt8) else 0x80).toNat ≤
      (char.toNat / 4096 % 64 + 128).toUInt8.toNat := by
    rw [second]
    split
    · change 144 ≤ _
      omega
    · exact Nat.le_add_left 128 _
  have greatest : (char.toNat / 4096 % 64 + 128).toUInt8.toNat ≤
      (if char.toNat / 262144 % 8 + 240 = 0xF4 then (0x8F : UInt8) else 0xBF).toNat := by
    rw [second]
    split
    · change _ ≤ 143
      omega
    · change _ ≤ 191
      omega
  have whole : (((char.toNat / 262144 % 8 + 240 - 0xF0) * 64 +
      (char.toNat / 4096 % 64 + 128 - 0x80)) * 64 + char.toNat / 64 % 64) * 64 + char.toNat % 64 =
      char.toNat := by
    omega
  rw [decodeFrom, step_start, first_eq, lead, if_neg (by omega), if_neg (by omega),
    if_neg (by omega), if_neg (by omega), if_pos (by omega), decodeFrom,
    step_next (Nat.succ_ne_zero 2) _ least greatest, second, if_neg (by decide), decodeFrom,
    step_tail (Nat.succ_ne_zero 1), if_neg (by decide), decodeFrom, step_tail Nat.one_ne_zero,
    if_pos rfl, whole, Char.ofNat_toNat]
  rfl

theorem utf8EncodeChar_eq (char : Char) :
    String.utf8EncodeChar char =
      if char.toNat ≤ 0x7F then [char.toNat.toUInt8]
      else if char.toNat ≤ 0x7FF then
        [(char.toNat / 64 % 32 + 192).toUInt8, (char.toNat % 64 + 128).toUInt8]
      else if char.toNat ≤ 0xFFFF then
        [(char.toNat / 4096 % 16 + 224).toUInt8, (char.toNat / 64 % 64 + 128).toUInt8,
          (char.toNat % 64 + 128).toUInt8]
      else
        [(char.toNat / 262144 % 8 + 240).toUInt8, (char.toNat / 4096 % 64 + 128).toUInt8,
          (char.toNat / 64 % 64 + 128).toUInt8, (char.toNat % 64 + 128).toUInt8] := by
  rfl

theorem decodeFrom_char (done : List (Option Char)) (char : Char) (rest : List UInt8) :
    decodeFrom {} done (String.utf8EncodeChar char ++ rest) =
      decodeFrom {} (some char :: done) rest := by
  rw [utf8EncodeChar_eq]
  by_cases one : char.toNat ≤ 0x7F
  · rw [if_pos one]
    exact decodeFrom_one done char one rest
  · rw [if_neg one]
    by_cases two : char.toNat ≤ 0x7FF
    · rw [if_pos two]
      exact decodeFrom_two done char (by omega) two rest
    · rw [if_neg two]
      by_cases three : char.toNat ≤ 0xFFFF
      · rw [if_pos three]
        exact decodeFrom_three done char (by omega) three rest
      · rw [if_neg three]
        exact decodeFrom_four done char (by omega) rest

theorem decodeFrom_encode (done : List (Option Char)) (text : List Char) :
    decodeFrom {} done (encode text) = done.reverse ++ text.map some := by
  induction text generalizing done with
  | nil => simp [encode, decodeFrom, finish]
  | cons char text ih =>
      rw [encode, List.flatMap_cons, decodeFrom_char]
      change decodeFrom {} (some char :: done) (encode text) = _
      rw [ih]
      simp

@[simp] theorem decode_encode (text : List Char) : decode (encode text) = text.map some :=
  decodeFrom_encode [] text

@[simp] theorem decode?_encode (text : List Char) : decode? (encode text) = some text := by
  rw [decode?, decode_encode]
  induction text with
  | nil => rfl
  | cons char text ih => simp [List.mapM_cons, ih]

@[simp] theorem decodeLossy_encode (text : List Char) : decodeLossy (encode text) = text := by
  rw [decodeLossy, decode_encode, List.map_map]
  exact List.map_id text

@[simp] theorem toStringLossy_ofString (text : String) : toStringLossy (ofString text) = text := by
  rw [toStringLossy, ofString, decodeLossy_encode, String.ofList_toList]

theorem encodeItems_chars (chars : List Char) :
    encodeItems (chars.map Text.Item.char) = encode chars := by
  rw [encodeItems, List.flatMap_map]
  rfl

end Utf8

end NodeConsole
