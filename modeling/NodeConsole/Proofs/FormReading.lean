import NodeConsole.Proofs.LowBytes
import NodeConsole.Proofs.Reception
import NodeConsole.Proofs.Urlencoded

/-!
Forms as a server reads them, set against the standard reading. The two agree on a name or a value
that is `Readable`, and on no other. What comes of a body hangs on its bytes alone, however they
are cut into chunks, and of a body beyond the limit no more is kept than the limit allows
(`form_follows_standard_iff`).
-/

namespace NodeConsole

namespace Percent

def Escaped (text : List Char) : Prop :=
  ∃ before high low after, text = before ++ '%' :: high :: low :: after ∧
    (escape? high low).isSome = true

theorem escaped_cons_iff {char : Char} {rest : List Char} (plain : Plain char rest) :
    Escaped (char :: rest) ↔ Escaped rest := by
  constructor
  · rintro ⟨before, high, low, after, same, escape⟩
    cases before with
    | nil =>
        obtain ⟨percent, same⟩ := List.cons.inj same
        rw [plain high low after percent same] at escape
        cases escape
    | cons first before =>
        obtain ⟨_, same⟩ := List.cons.inj same
        exact ⟨before, high, low, after, same, escape⟩
  · rintro ⟨before, high, low, after, rfl, escape⟩
    exact ⟨char :: before, high, low, after, rfl, escape⟩

theorem not_escaped_nil : ¬ Escaped [] := by
  rintro ⟨before, high, low, after, same, _⟩
  cases before <;> cases same

theorem any_isByte_iff (text : List Char) :
    (pieces text).any Piece.isByte = true ↔ Escaped text := by
  induction text using pieces_induction with
  | nil => simp [pieces, piecesFrom, not_escaped_nil]
  | escape high low rest byte found ih =>
      have escaped : Escaped ('%' :: high :: low :: rest) :=
        ⟨[], high, low, rest, rfl, by rw [found]; rfl⟩
      simp [pieces_escape found, Piece.isByte, escaped]
  | plain char rest plain ih =>
      rw [pieces_plain plain, escaped_cons_iff plain, ← ih]
      rfl

theorem pieces_eq_map {text : List Char} (none : ¬ Escaped text) :
    pieces text = text.map .char := by
  induction text using pieces_induction with
  | nil => rfl
  | escape high low rest byte found ih =>
      exact absurd ⟨[], high, low, rest, rfl, by rw [found]; rfl⟩ none
  | plain char rest plain ih =>
      rw [escaped_cons_iff plain] at none
      rw [pieces_plain plain, ih none, List.map_cons]

theorem escape?_ascii {high low : Char} {byte : UInt8} (found : escape? high low = some byte) :
    high.toNat < 0x80 ∧ low.toNat < 0x80 := by
  have digit {char : Char} (digit : (digitValue? 16 char).isSome = true) : char.toNat < 0x80 := by
    by_contra large
    rw [digitValue?_large (by omega)] at digit
    cases digit
  obtain ⟨highDigit, lowDigit⟩ := escape?_digits (by rw [found]; rfl)
  exact ⟨digit highDigit, digit lowDigit⟩

theorem mem_pieces_iff {char : Char} (large : 0x80 ≤ char.toNat) (text : List Char) :
    .char char ∈ pieces text ↔ char ∈ text := by
  induction text using pieces_induction with
  | nil => simp [pieces, piecesFrom]
  | escape high low rest byte found ih =>
      obtain ⟨highAscii, lowAscii⟩ := escape?_ascii found
      have other (ascii : Char) (small : ascii.toNat < 0x80) : char ≠ ascii := by
        rintro rfl
        omega
      simp [pieces_escape found, ih, other '%' (by decide), other high highAscii,
        other low lowAscii]
  | plain first rest plain ih => simp [pieces_plain plain, ih]

end Percent

namespace Utf8

theorem lossy_of_mapM {items : List (Option Char)} {text : List Char}
    (whole : items.mapM id = some text) : lossy items = text := by
  induction items generalizing text with
  | nil =>
      cases whole
      rfl
  | cons item rest ih =>
      cases item with
      | none => cases whole
      | some char =>
          cases read : rest.mapM id with
          | none => simp [List.mapM_cons, read] at whole
          | some others =>
              simp only [List.mapM_cons, read, id, Option.bind_eq_bind, Option.bind_some,
                Option.pure_def, Option.some.injEq] at whole
              rw [← whole, ← ih read]
              rfl

theorem decodeLossy_of_decode? {bytes : List UInt8} {text : List Char}
    (decoded : decode? bytes = some text) : decodeLossy bytes = text :=
  lossy_of_mapM decoded

end Utf8

namespace Form

open Percent (Escaped)

/-- A name or a value that is read as the standard has it: it has no escape (also where plus signs
are left out), or every percent sign starts one and the bytes are UTF-8, or its characters outside
ASCII are replacements. -/
def Readable (part : List Char) : Prop :=
  ¬ Escaped (part.filter (· ≠ '+')) ∨ (unescape? (part.map plusToSpace)).isSome = true ∨
    ∀ char ∈ part, ¬ Utf8.Missed char

theorem plusToSpace_eq {char value : Char} (same : plusToSpace char = value)
    (notSpace : value ≠ ' ') : char = value ∧ char ≠ '+' := by
  by_cases plus : char = '+'
  · rw [plusToSpace, if_pos plus] at same
    exact absurd same.symm notSpace
  · rw [plusToSpace, if_neg plus] at same
    exact ⟨same, plus⟩

theorem escape?_notSpace {high low : Char} (escape : (Percent.escape? high low).isSome = true) :
    high ≠ ' ' ∧ low ≠ ' ' := by
  have digit {char : Char} (digit : (digitValue? 16 char).isSome = true) : char ≠ ' ' := by
    rintro rfl
    have space : digitValue? 16 ' ' = none := by decide
    rw [space] at digit
    cases digit
  obtain ⟨highDigit, lowDigit⟩ := Percent.escape?_digits escape
  exact ⟨digit highDigit, digit lowDigit⟩

/-- An escape stays one where plus signs are left out instead of read as spaces. -/
theorem escaped_filter {part : List Char} (escaped : Escaped (part.map plusToSpace)) :
    Escaped (part.filter (· ≠ '+')) := by
  obtain ⟨before, high, low, after, same, escape⟩ := escaped
  obtain ⟨highOther, lowOther⟩ := escape?_notSpace escape
  obtain ⟨front, back, rfl, _, same⟩ := List.map_eq_append_iff.mp same
  obtain ⟨first, back, rfl, percent, same⟩ := List.map_eq_cons_iff.mp same
  obtain ⟨second, back, rfl, one, same⟩ := List.map_eq_cons_iff.mp same
  obtain ⟨third, back, rfl, other, _⟩ := List.map_eq_cons_iff.mp same
  obtain ⟨rfl, _⟩ := plusToSpace_eq percent (by decide)
  obtain ⟨rfl, onePlus⟩ := plusToSpace_eq one highOther
  obtain ⟨rfl, otherPlus⟩ := plusToSpace_eq other lowOther
  refine ⟨front.filter (· ≠ '+'), second, third, back.filter (· ≠ '+'), ?_, escape⟩
  simp [onePlus, otherPlus]

theorem missed_spaced_iff (part : List Char) :
    (∀ char, .char char ∈ Percent.pieces (part.map plusToSpace) → ¬ Utf8.Missed char) ↔
      ∀ char ∈ part, ¬ Utf8.Missed char := by
  have same {char : Char} (missed : Utf8.Missed char) :
      .char char ∈ Percent.pieces (part.map plusToSpace) ↔ char ∈ part := by
    have other (ascii : Char) (small : ascii.toNat < 0x80) : char ≠ ascii := by
      rintro rfl
      have large := missed.1
      omega
    rw [Percent.mem_pieces_iff missed.1, List.mem_map]
    constructor
    · rintro ⟨given, among, spaced⟩
      obtain ⟨rfl, _⟩ := plusToSpace_eq spaced (other ' ' (by decide))
      exact among
    · intro among
      exact ⟨char, among, by rw [plusToSpace, if_neg (other '+' (by decide))]⟩
  constructor
  · intro kept char among missed
    exact kept char ((same missed).mpr among) missed
  · intro kept char among missed
    exact kept char ((same missed).mp among) missed

theorem decode_of_unescape? {part text : List Char} (sound : unescape? part = some text) :
    Utf8.decodeLossy (Percent.decode part) = text := by
  simp only [unescape?] at sound
  split at sound
  · cases sound
  · exact Utf8.decodeLossy_of_decode? sound

theorem decodePart_eq_iff (part : List Char) :
    decodePart part = Urlencoded.readPart part ↔ Readable part := by
  have escapes := Percent.any_isByte_iff (part.filter (· ≠ '+'))
  have read : decodePart part = String.ofList (if hasEscape part
      then unescape (part.map plusToSpace) else part.map plusToSpace) := rfl
  rw [read, Urlencoded.readPart, String.ofList_inj, hasEscape, Readable]
  by_cases escaped : Escaped (part.filter (· ≠ '+'))
  · rw [if_pos (escapes.mpr escaped), unescape]
    cases sound : unescape? (part.map plusToSpace) with
    | some text =>
        rw [decode_of_unescape? sound]
        simp
    | none =>
        simp only [escaped, not_true_eq_false, Option.isSome_none, Bool.false_eq_true, false_or]
        rw [← missed_spaced_iff]
        exact Utf8.lowBytes_same_iff (Percent.pieces (part.map plusToSpace))
  · have plain : ¬ Escaped (part.map plusToSpace) := fun inside => escaped (escaped_filter inside)
    have spelled : Percent.decode (part.map plusToSpace) =
        Utf8.encode (part.map plusToSpace) := by
      rw [Percent.decode, Percent.pieces_eq_map plain, List.flatMap_map]
      rfl
    rw [if_neg (fun found => escaped (escapes.mp found)), spelled, Utf8.decodeLossy_encode]
    exact iff_of_true rfl (.inl escaped)

def parts (text : List Char) : List (List Char) :=
  (Urlencoded.sequences text).flatMap fun sequence =>
    [sequence.takeWhile (· ≠ '='), (sequence.dropWhile (· ≠ '=')).drop 1]

theorem ofChars_sequences (text : List Char) :
    ofChars text = ⟨(Urlencoded.sequences text).map decodePair⟩ := by
  by_cases mark : text.head? = some '?'
  · obtain ⟨rest, rfl⟩ := List.head?_eq_some_iff.mp mark
    rfl
  · have kept : Urlencoded.dropMark text = text := by
      rw [Urlencoded.dropMark]
      rintro rest rfl
      exact mark rfl
    rw [ofChars_eq mark, Urlencoded.sequences, kept]

theorem decodePair_eq_iff (sequence : List Char) :
    decodePair sequence = Urlencoded.readPair sequence ↔
      Readable (sequence.takeWhile (· ≠ '=')) ∧
        Readable ((sequence.dropWhile (· ≠ '=')).drop 1) := by
  rw [← decodePart_eq_iff, ← decodePart_eq_iff, decodePair, List.span_eq_takeWhile_dropWhile,
    Urlencoded.readPair, Prod.mk.injEq]

theorem pairs_eq_iff (text : List Char) :
    (ofChars text).pairs = Urlencoded.parse text ↔ ∀ part ∈ parts text, Readable part := by
  rw [ofChars_sequences, Urlencoded.parse_eq, List.map_inj_left]
  simp only [decodePair_eq_iff, parts, List.mem_flatMap, List.mem_cons, List.not_mem_nil, or_false]
  constructor
  · rintro readable part ⟨sequence, among, rfl | rfl⟩
    · exact (readable sequence among).1
    · exact (readable sequence among).2
  · intro readable sequence among
    exact ⟨readable _ ⟨sequence, among, .inl rfl⟩, readable _ ⟨sequence, among, .inr rfl⟩⟩

end Form

namespace Http.Body

structure Keeps (body : Body) (chunks : List (List UInt8)) : Prop where
  first : body.kept.reverse <+: chunks
  within : body.kept.reverse.flatten.length ≤ bodyLimit
  whole : body.size ≤ bodyLimit → body.kept.reverse = chunks

theorem Keeps.receive {body : Body} {chunks : List (List UInt8)} (keeps : Keeps body chunks)
    (holds : Holds body chunks) (content : List UInt8) :
    Keeps (body.receive content) (chunks ++ [content]) := by
  have size := holds.size
  by_cases exceeds : bodyLimit < body.size + content.length
  · constructor
    · simp only [Body.receive, exceeds, if_true]
      exact keeps.first.trans (List.prefix_append chunks [content])
    · simp only [Body.receive, exceeds, if_true]
      exact keeps.within
    · -- the size never comes back within the limit
      simp only [Body.receive, exceeds, if_true]
      omega
  · have kept := keeps.whole (by omega)
    constructor
    · simp [Body.receive, exceeds, kept]
    · simp [Body.receive, exceeds, kept] at size ⊢
      omega
    · simp [Body.receive, exceeds, kept]

theorem keeps_foldl (chunks : List (List UInt8)) : Keeps (chunks.foldl Body.receive {}) chunks := by
  induction chunks using List.reverseRecOn with
  | nil => exact ⟨List.prefix_rfl, Nat.zero_le _, fun _ => rfl⟩
  | append_singleton chunks content ih =>
      rw [List.foldl_append]
      exact ih.receive (holds_foldl chunks) content

theorem formOfChunks_eq (chunks : List (List UInt8)) :
    formOfChunks chunks none =
      if chunks.flatten.length ≤ bodyLimit then .ok (Form.ofBytes chunks.flatten)
      else .error (.request "Request body too large" 413) := by
  have ended : some (formOfChunks chunks none) = (Delivery.ended chunks).form? := form_eq chunks
  rw [Delivery.form?] at ended
  by_cases within : chunks.flatten.length ≤ bodyLimit
  · rw [if_pos within] at ended ⊢
    exact Option.some.inj ended
  · rw [if_neg within] at ended ⊢
    exact Option.some.inj ended

/-- What becomes of a body, whatever the chunks it comes in. -/
structure Read (chunks : List (List UInt8)) : Prop where
  refused_iff : formOfChunks chunks none = .error (.request "Request body too large" 413) ↔
    1048576 < chunks.flatten.length
  accepted : chunks.flatten.length ≤ 1048576 → ∃ form, formOfChunks chunks none = .ok form ∧
    (form.pairs = Urlencoded.parse (Utf8.decodeLossy chunks.flatten) ↔
      ∀ part ∈ Form.parts (Utf8.decodeLossy chunks.flatten), Form.Readable part)
  bytes_only : ∀ others : List (List UInt8), others.flatten = chunks.flatten →
    formOfChunks others none = formOfChunks chunks none
  failed : ∀ message, formOfChunks chunks (some message) = .error (.foreign message)
  retained : ∀ count, let kept := ((chunks.take count).foldl receive {}).kept.reverse
    kept <+: chunks ∧ kept.flatten.length ≤ 1048576

/-- A body is read as the standard has it exactly if each of its names and values is readable, and
by its bytes alone. -/
theorem form_follows_standard_iff (chunks : List (List UInt8)) : Read chunks where
  refused_iff := by
    rw [formOfChunks_eq]
    change _ ↔ bodyLimit < _
    by_cases within : chunks.flatten.length ≤ bodyLimit
    · rw [if_pos within]
      exact iff_of_false nofun (by omega)
    · rw [if_neg within]
      exact iff_of_true rfl (by omega)
  accepted within := by
    rw [formOfChunks_eq, if_pos (show _ ≤ bodyLimit from within)]
    exact ⟨_, rfl, Form.pairs_eq_iff (Utf8.decodeLossy chunks.flatten)⟩
  bytes_only others same := by
    rw [formOfChunks_eq, formOfChunks_eq, same]
  failed message := rfl
  retained count := by
    obtain ⟨first, within, _⟩ := keeps_foldl (chunks.take count)
    exact ⟨first.trans (List.take_prefix count chunks), within⟩

/-- A byte that is cut short by a character of its own: the standard has one replacement and the
character, the server two replacements. -/
theorem character_beside_escape_misread :
    let body : List UInt8 := [0x61, 0x3D, 0x25, 0x43, 0x33, 0xC3, 0xA9]
    formOfChunks [body] none = .ok ⟨[("a", "\uFFFD\uFFFD")]⟩ ∧
    Urlencoded.parse (Utf8.decodeLossy body) = [("a", "\uFFFDé")] := by
  decide +kernel

end Http.Body

end NodeConsole
