import Mathlib.Data.List.TakeDrop
import NodeConsole.Form
import NodeConsole.Proofs.TextCoding

/-!
Forms written out and read back. Letters, digits and four signs are written as they are, a space as
a plus sign, and every other byte of a text as an escape; what is written so has the same fields
when it is read (`ofBytes_serialize`).
-/

namespace NodeConsole

namespace Percent

theorem digitValue?_upperHexDigit {value : Nat} (small : value < 16) :
    digitValue? 16 (upperHexDigit value) = some value := by
  have digits : ∀ digit : Fin 16, digitValue? 16 (upperHexDigit digit) = some digit.val := by
    decide
  exact digits ⟨value, small⟩

theorem escape?_encodeByte (byte : UInt8) :
    escape? (upperHexDigit (byte.toNat / 16)) (upperHexDigit (byte.toNat % 16)) = some byte := by
  have bound := byte.toNat_lt
  have whole : byte.toNat / 16 * 16 + byte.toNat % 16 = byte.toNat := by
    omega
  rw [escape?, digitValue?_upperHexDigit (by omega), digitValue?_upperHexDigit (by omega)]
  simp only [whole, Nat.toUInt8_eq, UInt8.ofNat_toNat]

theorem piecesFrom_escape (done : List Piece) (byte : UInt8) (rest : List Char) :
    piecesFrom done (encodeByte byte ++ rest) = piecesFrom (.byte byte :: done) rest := by
  rw [encodeByte, List.cons_append, List.cons_append, List.cons_append, List.nil_append,
    piecesFrom, escape?_encodeByte]

theorem piecesFrom_char (done : List Piece) {char : Char} (plain : char ≠ '%') (rest : List Char) :
    piecesFrom done (char :: rest) = piecesFrom (.char char :: done) rest := by
  rw [piecesFrom]
  rintro _ _ _ rfl
  exact absurd rfl plain

/-- Texts that are written byte by byte are taken apart byte by byte. -/
theorem pieces_flatMap {write : UInt8 → List Char} (read : UInt8 → List Piece)
    (each : ∀ done byte rest,
      piecesFrom done (write byte ++ rest) = piecesFrom ((read byte).reverse ++ done) rest)
    (bytes : List UInt8) : pieces (bytes.flatMap write) = bytes.flatMap read := by
  have further (done : List Piece) :
      piecesFrom done (bytes.flatMap write) = done.reverse ++ bytes.flatMap read := by
    induction bytes generalizing done with
    | nil => simp [piecesFrom]
    | cons byte rest ih => simp [each, ih]
  exact further []

end Percent

namespace Form

open Percent (Piece pieces piecesFrom)

def isKept (char : Char) : Bool :=
  char.isAlphanum || ['*', '-', '.', '_'].contains char

def serializeByte (byte : UInt8) : List Char :=
  if byte = 0x20 then ['+']
  else if isKept (Char.ofNat byte.toNat) then [Char.ofNat byte.toNat]
  else Percent.encodeByte byte

def serializeText (text : String) : List Char :=
  (Utf8.ofString text).flatMap serializeByte

def serializePair (pair : String × String) : List Char :=
  serializeText pair.1 ++ '=' :: serializeText pair.2

def serialize (pairs : List (String × String)) : List UInt8 :=
  Utf8.encode (['&'].intercalate (pairs.map serializePair))

/-- How a byte is written, and what is read of it once plus signs are spaces again. -/
inductive Written (byte : UInt8) : List Char → Piece → Prop
  | space (is : byte = 0x20) : Written byte ['+'] (.char ' ')
  | kept {char} (noEscape : char ≠ '%') (noPlus : char ≠ '+')
      (encoded : String.utf8EncodeChar char = [byte]) : Written byte [char] (.char char)
  | escaped (noPlus : '+' ∉ Percent.encodeByte byte) :
      Written byte (Percent.encodeByte byte) (.byte byte)

def pieceOf (byte : UInt8) : Piece :=
  if byte = 0x20 then .char ' '
  else if isKept (Char.ofNat byte.toNat) then .char (Char.ofNat byte.toNat)
  else .byte byte

theorem byte_forall {motive : UInt8 → Prop} (each : ∀ value : Fin 256, motive (UInt8.ofFin value))
    (byte : UInt8) : motive byte :=
  each byte.toFin

theorem isKept_byte (byte : UInt8) (kept : isKept (Char.ofNat byte.toNat) = true) :
    Char.ofNat byte.toNat ≠ '%' ∧ Char.ofNat byte.toNat ≠ '+' ∧
      String.utf8EncodeChar (Char.ofNat byte.toNat) = [byte] := by
  revert kept byte
  apply byte_forall
  decide +kernel

theorem not_mem_encodeByte (byte : UInt8) : '+' ∉ Percent.encodeByte byte := by
  revert byte
  apply byte_forall
  decide +kernel

theorem serializeByte_written (byte : UInt8) :
    Written byte (serializeByte byte) (pieceOf byte) := by
  unfold serializeByte pieceOf
  by_cases space : byte = 0x20
  · rw [if_pos space, if_pos space]
    exact .space space
  · rw [if_neg space, if_neg space]
    by_cases kept : isKept (Char.ofNat byte.toNat) = true
    · rw [if_pos kept, if_pos kept]
      obtain ⟨noEscape, noPlus, encoded⟩ := isKept_byte byte kept
      exact .kept noEscape noPlus encoded
    · rw [if_neg kept, if_neg kept]
      exact .escaped (not_mem_encodeByte byte)

def plusToSpace (char : Char) : Char :=
  if char = '+' then ' ' else char

theorem map_plusToSpace {text : List Char} (noPlus : '+' ∉ text) : text.map plusToSpace = text := by
  rw [List.map_congr_left (g := id), List.map_id]
  intro char member
  rw [plusToSpace, if_neg (ne_of_mem_of_not_mem member noPlus), id]

theorem filter_plus {text : List Char} (noPlus : '+' ∉ text) :
    text.filter (· ≠ '+') = text := by
  rw [List.filter_eq_self]
  intro char member
  exact decide_eq_true (ne_of_mem_of_not_mem member noPlus)

theorem Written.not_mem {byte : UInt8} {text : List Char} {piece : Piece}
    (written : Written byte text piece) (notSpace : byte ≠ 0x20) : '+' ∉ text := by
  cases written with
  | space is => exact absurd is notSpace
  | kept noEscape noPlus encoded => simpa using Ne.symm noPlus
  | escaped noPlus => exact noPlus

theorem Written.piecesFrom_eq {byte : UInt8} {text : List Char} {piece : Piece}
    (written : Written byte text piece) (notSpace : byte ≠ 0x20) (done : List Piece)
    (rest : List Char) : piecesFrom done (text ++ rest) = piecesFrom (piece :: done) rest := by
  cases written with
  | space is => exact absurd is notSpace
  | kept noEscape noPlus encoded => exact Percent.piecesFrom_char done noEscape rest
  | escaped noPlus => exact Percent.piecesFrom_escape done byte rest

theorem pieces_spaced (bytes : List UInt8) :
    pieces ((bytes.flatMap serializeByte).map plusToSpace) = bytes.map pieceOf := by
  rw [List.map_flatMap, List.map_eq_flatMap]
  refine Percent.pieces_flatMap (fun byte => [pieceOf byte]) ?_ bytes
  intro done byte rest
  by_cases space : byte = 0x20
  · subst space
    rfl
  · have written := serializeByte_written byte
    rw [map_plusToSpace (written.not_mem space)]
    exact written.piecesFrom_eq space done rest

theorem hasEscape_serialize (bytes : List UInt8) :
    hasEscape (bytes.flatMap serializeByte) = bytes.any fun byte => (pieceOf byte).isByte := by
  -- escapes are looked for where plus signs are left out and not yet spaces
  have found : pieces ((bytes.flatMap serializeByte).filter (· ≠ '+')) =
      bytes.flatMap fun byte => if byte = 0x20 then [] else [pieceOf byte] := by
    rw [List.filter_flatMap]
    refine Percent.pieces_flatMap _ ?_ bytes
    intro done byte rest
    by_cases space : byte = 0x20
    · subst space
      rfl
    · have written := serializeByte_written byte
      rw [if_neg space, filter_plus (written.not_mem space)]
      exact written.piecesFrom_eq space done rest
  rw [hasEscape, found, List.any_flatMap]
  congr 1
  funext byte
  by_cases space : byte = 0x20
  · subst space
    rfl
  · simp [space]

theorem bytes_pieceOf (byte : UInt8) : (pieceOf byte).bytes = [byte] := by
  have written := serializeByte_written byte
  generalize serializeByte byte = text, pieceOf byte = piece at written ⊢
  cases written with
  | space is => rw [is]; rfl
  | kept noEscape noPlus encoded => exact encoded
  | escaped noPlus => rfl

theorem pieceOf_ne (byte : UInt8) : pieceOf byte ≠ .char '%' := by
  have written := serializeByte_written byte
  generalize serializeByte byte = text, pieceOf byte = piece at written ⊢
  intro same
  subst same
  cases written with
  | kept noEscape noPlus encoded => exact noEscape rfl

theorem unescape?_serialize (text : String) :
    unescape? ((serializeText text).map plusToSpace) = some text.toList := by
  have noPercent : ((Utf8.ofString text).map pieceOf).contains (.char '%') = false := by
    rw [← Bool.not_eq_true, List.contains_iff_mem]
    intro member
    obtain ⟨byte, _, same⟩ := List.mem_map.mp member
    exact pieceOf_ne byte same
  have bytes : ((Utf8.ofString text).map pieceOf).flatMap Piece.bytes = Utf8.ofString text := by
    rw [List.flatMap_map]
    simp only [bytes_pieceOf, List.flatMap_singleton']
  rw [unescape?, serializeText, pieces_spaced]
  simp only [noPercent, bytes]
  exact Utf8.decode?_encode text.toList

theorem encode_spaced {byte : UInt8} (noEscape : (pieceOf byte).isByte = false) :
    Utf8.encode ((serializeByte byte).map plusToSpace) = [byte] := by
  have written := serializeByte_written byte
  generalize serializeByte byte = text, pieceOf byte = piece at written noEscape ⊢
  cases written with
  | space is => rw [is]; rfl
  | kept noEscape noPlus encoded =>
      rw [map_plusToSpace (by simpa using Ne.symm noPlus), Utf8.encode, List.flatMap_singleton]
      exact encoded
  | escaped noPlus => cases noEscape

theorem spaced_eq {text : String}
    (noEscape : ∀ byte ∈ Utf8.ofString text, (pieceOf byte).isByte = false) :
    (serializeText text).map plusToSpace = text.toList := by
  -- the characters are told apart by their bytes, which are those of the text
  have same : Utf8.encode ((serializeText text).map plusToSpace) = Utf8.encode text.toList := by
    rw [serializeText, List.map_flatMap, Utf8.encode, List.flatMap_assoc]
    refine (List.flatMap_congr ?_).trans (List.flatMap_singleton' (Utf8.ofString text))
    intro byte member
    exact encode_spaced (noEscape byte member)
  rw [← Utf8.decodeLossy_encode ((serializeText text).map plusToSpace), same,
    Utf8.decodeLossy_encode]

theorem decodePart_serialize (text : String) : decodePart (serializeText text) = text := by
  have read : (if hasEscape (serializeText text)
      then unescape ((serializeText text).map plusToSpace)
      else (serializeText text).map plusToSpace) = text.toList := by
    by_cases escapes : hasEscape (serializeText text) = true
    · rw [if_pos escapes, unescape, unescape?_serialize]
    · rw [if_neg escapes]
      rw [serializeText, hasEscape_serialize, Bool.not_eq_true, List.any_eq_false] at escapes
      exact spaced_eq fun byte member => Bool.eq_false_iff.mpr (escapes byte member)
  exact (congrArg String.ofList read).trans String.ofList_toList

theorem not_mem_serializeByte (byte : UInt8) :
    '&' ∉ serializeByte byte ∧ '=' ∉ serializeByte byte ∧ '?' ∉ serializeByte byte := by
  revert byte
  apply byte_forall
  decide +kernel

theorem not_mem_serializeText (text : String) :
    '&' ∉ serializeText text ∧ '=' ∉ serializeText text ∧ '?' ∉ serializeText text := by
  simp only [serializeText, List.mem_flatMap, not_exists, not_and]
  refine ⟨?_, ?_, ?_⟩
  · exact fun byte _ => (not_mem_serializeByte byte).1
  · exact fun byte _ => (not_mem_serializeByte byte).2.1
  · exact fun byte _ => (not_mem_serializeByte byte).2.2

theorem decodePair_serialize (pair : String × String) : decodePair (serializePair pair) = pair := by
  have noSign : ∀ char ∈ serializeText pair.1, decide (char ≠ '=') = true := fun char member =>
    decide_eq_true (ne_of_mem_of_not_mem member (not_mem_serializeText pair.1).2.1)
  have parts : (serializePair pair).span (· ≠ '=') =
      (serializeText pair.1, '=' :: serializeText pair.2) := by
    rw [List.span_eq_takeWhile_dropWhile, serializePair, List.takeWhile_append_of_pos noSign,
      List.dropWhile_append_of_pos noSign]
    simp
  simp only [decodePair, parts, List.drop_one, List.tail_cons, decodePart_serialize]

theorem not_mem_serializePair (pair : String × String) : '&' ∉ serializePair pair := by
  simp [serializePair, (not_mem_serializeText pair.1).1, (not_mem_serializeText pair.2).1]

theorem ofChars_eq {text : List Char} (noMark : text.head? ≠ some '?') :
    ofChars text = ⟨((text.splitOn '&').filter fun part => !part.isEmpty).map decodePair⟩ := by
  cases text with
  | nil => rfl
  | cons first rest =>
      rw [ofChars]
      rintro others ⟨⟩
      exact noMark rfl

theorem head?_intercalate (pairs : List (String × String)) :
    (['&'].intercalate (pairs.map serializePair)).head? ≠ some '?' := by
  have headed (pair : String × String) (tail : List Char) :
      (serializePair pair ++ tail).head? ≠ some '?' := by
    rw [serializePair]
    cases written : serializeText pair.1 with
    | nil => simp
    | cons first others =>
        intro mark
        refine (not_mem_serializeText pair.1).2.2 ?_
        rw [written]
        exact Option.some.inj mark ▸ List.mem_cons_self
  cases pairs with
  | nil => simp
  | cons pair rest =>
      cases rest with
      | nil => exact headed pair []
      | cons second rest => exact headed pair _

theorem ofBytes_serialize (pairs : List (String × String)) :
    ofBytes (serialize pairs) = ⟨pairs⟩ := by
  rw [ofBytes, serialize, Utf8.decodeLossy_encode, ofChars_eq (head?_intercalate pairs)]
  congr 1
  cases pairs with
  | nil => rfl
  | cons pair rest =>
      rw [List.splitOn_intercalate]
      · rw [List.filter_eq_self.mpr, List.map_map]
        · rw [List.map_congr_left (g := id), List.map_id]
          exact fun pair _ => decodePair_serialize pair
        · intro part among
          obtain ⟨pair, _, rfl⟩ := List.mem_map.mp among
          simp [serializePair]
      · intro part among
        obtain ⟨pair, _, rfl⟩ := List.mem_map.mp among
        exact not_mem_serializePair pair
      · exact List.cons_ne_nil _ _

theorem get?_eq_lookup (form : Form) (name : String) : form.get? name = form.pairs.lookup name := by
  obtain ⟨pairs⟩ := form
  induction pairs with
  | nil => rfl
  | cons pair rest ih =>
      obtain ⟨first, value⟩ := pair
      by_cases same : first = name
      · subst same
        simp [get?]
      · have differs : (name == first) = false := beq_eq_false_iff_ne.mpr (Ne.symm same)
        rw [List.lookup_cons, differs]
        simpa [get?, same] using ih

/-- Of several fields with a name the first one counts. -/
theorem get?_append {before : List (String × String)} {name : String}
    (others : ∀ field ∈ before, field.1 ≠ name) (value : String)
    (after : List (String × String)) :
    (⟨before ++ (name, value) :: after⟩ : Form).get? name = some value := by
  have absent : (before.find? fun field => field.1 = name) = none :=
    List.find?_eq_none.mpr fun field member => by simpa using others field member
  simp [get?, List.find?_append, absent]

end Form

end NodeConsole
