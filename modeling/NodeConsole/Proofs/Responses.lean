import Mathlib.Data.List.Forall2
import NodeConsole.Proofs.Replies

/-!
Responses read from their bytes. A message is fields one after another, each a spelled lead and a
content of one of four kinds; numbers may be spelled in more groups than they need. Whatever such
a message holds besides, the texts of field number one are read, all of them and in order.
-/

namespace NodeConsole

namespace Wire

/-- Bytes that spell a number: groups of seven bits, all but the last marked as followed. -/
inductive Spells : Nat → List UInt8 → Prop
  | last {byte : UInt8} (unmarked : byte.toNat < 128) : Spells byte.toNat [byte]
  | more {byte : UInt8} {value : Nat} {rest : List UInt8} (marked : 128 ≤ byte.toNat)
      (further : Spells value rest) : Spells (byte.toNat - 128 + 128 * value) (byte :: rest)

/-- Numbers of 32 bits, such as leads and counts, have five groups at most. -/
structure SpellsWord (value : Nat) (bytes : List UInt8) : Prop where
  spells : Spells value bytes
  short : bytes.length ≤ 5
  small : value < 2 ^ 32

inductive HasKind : Nat → List UInt8 → Prop
  | number {value : Nat} {bytes : List UInt8} (spells : Spells value bytes) : HasKind 0 bytes
  | eight {bytes : List UInt8} (fixed : bytes.length = 8) : HasKind 1 bytes
  | counted {count content : List UInt8} (spells : SpellsWord content.length count) :
      HasKind 2 (count ++ content)
  | four {bytes : List UInt8} (fixed : bytes.length = 4) : HasKind 5 bytes

inductive Field where
  | text (content : String)
  | unknown (number kind : Nat) (content : List UInt8)
deriving DecidableEq, Repr

namespace Field

def text? : Field → Option String
  | .text content => some content
  | .unknown .. => none

inductive Spelled : Field → List UInt8 → Prop
  | text {content : String} {lead count : List UInt8} (leads : SpellsWord (8 * 1 + 2) lead)
      (counts : SpellsWord (Utf8.ofString content).length count) :
      Spelled (.text content) (lead ++ (count ++ Utf8.ofString content))
  | unknown {number kind : Nat} {lead content : List UInt8} (valid : number ≠ 0)
      (other : number ≠ 1) (leads : SpellsWord (8 * number + kind) lead)
      (holds : HasKind kind content) : Spelled (.unknown number kind content) (lead ++ content)

end Field

def Spelled (fields : List Field) (bytes : List UInt8) : Prop :=
  ∃ parts, List.Forall₂ Field.Spelled fields parts ∧ bytes = parts.flatten

def known (fields : List Field) : List String :=
  fields.filterMap Field.text?

theorem Spelled.append {first second : List Field} {bytes more : List UInt8}
    (spelled : Spelled first bytes) (further : Spelled second more) :
    Spelled (first ++ second) (bytes ++ more) := by
  obtain ⟨parts, each, rfl⟩ := spelled
  obtain ⟨others, eachOther, rfl⟩ := further
  exact ⟨parts ++ others, List.rel_append each eachOther, List.flatten_append.symm⟩

theorem known_append (first second : List Field) :
    known (first ++ second) = known first ++ known second :=
  List.filterMap_append

theorem known_texts (texts : List String) : known (texts.map .text) = texts := by
  induction texts with
  | nil => rfl
  | cons text rest ih => exact congrArg (text :: ·) ih

/-! Numbers. -/

theorem Spells.ne_nil {value : Nat} {bytes : List UInt8} (spells : Spells value bytes) :
    bytes ≠ [] := by
  cases spells <;> simp

theorem readGroups?_spells {value : Nat} {bytes : List UInt8} (spells : Spells value bytes)
    (groups weight low : Nat) (short : bytes.length ≤ groups + 1) (rest : List UInt8) :
    readGroups? (groups + 1) weight low (bytes ++ rest) =
      some ((low + value * weight) % Nat.pow 2 32, rest) := by
  induction spells generalizing groups weight low with
  | @last byte unmarked =>
      have last : byte < 128 := UInt8.lt_iff_toNat_lt.mpr unmarked
      rw [List.singleton_append, readGroups?]
      simp only [last, if_true, Nat.mod_eq_of_lt unmarked]
  | @more byte value bytes marked further ih =>
      have notLast : ¬ byte < 128 := by
        rw [UInt8.lt_iff_toNat_lt]
        exact Nat.not_lt.mpr marked
      -- a further group is still to come, and there is room for it
      have present : 0 < bytes.length := List.length_pos_iff.mpr further.ne_nil
      rw [List.length_cons] at short
      obtain ⟨fewer, rfl⟩ : ∃ fewer, groups = fewer + 1 :=
        Nat.exists_eq_succ_of_ne_zero (by omega)
      have bits : byte.toNat % 128 = byte.toNat - 128 := by
        have bound := byte.toNat_lt
        omega
      have whole : (byte.toNat - 128) * weight + value * (weight * 128) =
          (byte.toNat - 128 + 128 * value) * weight := by
        rw [Nat.add_mul, Nat.mul_comm weight 128, ← Nat.mul_assoc, Nat.mul_comm value 128]
      rw [List.cons_append, readGroups?]
      simp only [notLast, if_false]
      rw [ih fewer _ _ (by omega), bits, Nat.add_assoc, whole]

theorem SpellsWord.read {value : Nat} {bytes : List UInt8} (spells : SpellsWord value bytes)
    (rest : List UInt8) : readWord? (bytes ++ rest) = some (value, rest) := by
  have whole : value % Nat.pow 2 32 = value := Nat.mod_eq_of_lt spells.small
  rw [readWord?, readGroups?_spells spells.spells 4 1 0 spells.short rest, Nat.zero_add,
    Nat.mul_one, whole]

theorem skipVarint?_spells {value : Nat} {bytes : List UInt8} (spells : Spells value bytes)
    (rest : List UInt8) : skipVarint? (bytes ++ rest) = some rest := by
  induction spells with
  | @last byte unmarked =>
      have ends : ¬ (128 : UInt8) ≤ byte := by
        rw [UInt8.le_iff_toNat_le]
        exact Nat.not_le.mpr unmarked
      simp [skipVarint?, ends]
  | @more byte value bytes marked further ih =>
      have goes : (128 : UInt8) ≤ byte := UInt8.le_iff_toNat_le.mpr marked
      simpa [skipVarint?, goes] using ih

theorem spells_of_number? {value : Nat} {bytes : List UInt8}
    (read : number? bytes = some (value, [])) : Spells value bytes := by
  induction bytes generalizing value with
  | nil => cases read
  | cons byte rest ih =>
      rw [number?] at read
      by_cases unmarked : byte.toNat < 128
      · rw [if_pos unmarked] at read
        cases read
        exact .last unmarked
      · rw [if_neg unmarked] at read
        obtain ⟨⟨high, after⟩, further, same⟩ := Option.map_eq_some_iff.mp read
        cases same
        exact .more (by omega) (ih further)

theorem spells_varint (value : Nat) : Spells value (varint value) := by
  apply spells_of_number?
  have read := number?_varint value []
  rwa [List.append_nil] at read

theorem length_varint_le (value groups : Nat) (bound : value < 128 ^ (groups + 1)) :
    (varint value).length ≤ groups + 1 := by
  induction groups generalizing value with
  | zero =>
      rw [varint_small (by omega)]
      simp
  | succ groups ih =>
      by_cases small : value < 128
      · rw [varint_small small]
        simp
      · have fewer : value / 128 < 128 ^ (groups + 1) := by
          rw [Nat.div_lt_iff_lt_mul (by decide), ← Nat.pow_succ]
          exact bound
        have shorter := ih (value / 128) fewer
        rw [varint_large (by omega), List.length_cons]
        omega

theorem spellsWord_varint {value : Nat} (small : value < 2 ^ 32) :
    SpellsWord value (varint value) where
  spells := spells_varint value
  short := length_varint_le value 4 (Nat.lt_trans small (by decide))
  small := small

theorem spelled_textField {text : String} (small : (Utf8.ofString text).length < 2 ^ 32) :
    Field.Spelled (.text text) (textField (Utf8.ofString text)) := by
  have lead : SpellsWord (8 * 1 + 2) [0x0A] := ⟨spells_of_number? rfl, by decide, by decide⟩
  exact .text lead (spellsWord_varint small)

theorem spelled_textFields {texts : List String}
    (small : ∀ text ∈ texts, (Utf8.ofString text).length < 2 ^ 32) :
    Spelled (texts.map .text) (texts.flatMap fun text => textField (Utf8.ofString text)) := by
  refine ⟨texts.map fun text => textField (Utf8.ofString text), ?_, List.flatMap_def⟩
  rw [List.forall₂_map_left_iff, List.forall₂_map_right_iff, List.forall₂_same]
  exact fun text member => spelled_textField (small text member)

/-! Fields. -/

theorem skip?_length (content rest : List UInt8) :
    skip? content.length (content ++ rest) = some rest := by
  simp [skip?]

theorem HasKind.skipped {kind : Nat} {content : List UInt8} (holds : HasKind kind content)
    (fuel : Nat) (rest : List UInt8) :
    skipContent? (fuel + 1) 0 kind (content ++ rest) = some rest := by
  have shallow : ¬ depthLimit < 0 := Nat.not_lt_zero depthLimit
  have skipped := skip?_length content rest
  cases holds with
  | number spells =>
      rw [skipContent?, if_neg shallow]
      exact skipVarint?_spells spells rest
  | eight fixed =>
      rw [fixed] at skipped
      rw [skipContent?, if_neg shallow]
      exact skipped
  | counted spells =>
      rw [skipContent?, if_neg shallow]
      simp only [List.append_assoc, spells.read, Option.bind_some, skip?_length]
  | four fixed =>
      rw [fixed] at skipped
      rw [skipContent?, if_neg shallow]
      exact skipped

theorem HasKind.lt {kind : Nat} {content : List UInt8} (holds : HasKind kind content) :
    kind < 8 := by
  cases holds <;> decide

theorem readTexts?_step {bytes : List UInt8} (present : bytes ≠ []) (fuel : Nat)
    (done : List (List UInt8)) :
    readTexts? (fuel + 1) done bytes =
      match readWord? bytes with
      | none => none
      | some (lead, rest) =>
        if lead / 8 = 1 then
          match readWord? rest with
          | none => none
          | some (count, content) =>
            readTexts? fuel (content.take count :: done) (content.drop count)
        else
          match skipContent? (rest.length + 1) 0 (lead % 8) rest with
          | none => none
          | some after => readTexts? fuel done after := by
  cases bytes with
  | nil => exact absurd rfl present
  | cons byte rest => rfl

/-- A field is read or passed over as a whole, whatever follows it. -/
theorem Field.Spelled.readTexts? {field : Field} {part : List UInt8}
    (spelled : Field.Spelled field part) (fuel : Nat) (done : List (List UInt8))
    (rest : List UInt8) :
    readTexts? (fuel + 1) done (part ++ rest) =
      readTexts? fuel ((field.text?.map Utf8.ofString).toList ++ done) rest := by
  cases spelled with
  | @text content lead count leads counts =>
      have present : lead ++ (count ++ Utf8.ofString content) ++ rest ≠ [] := by
        simp [leads.spells.ne_nil]
      rw [readTexts?_step present]
      simp only [List.append_assoc, leads.read, counts.read, Nat.reduceMul, Nat.reduceAdd,
        Nat.reduceDiv, if_true, List.take_left, List.drop_left]
      rfl
  | @unknown number kind lead content valid other leads holds =>
      have present : lead ++ content ++ rest ≠ [] := by
        simp [leads.spells.ne_nil]
      have small := holds.lt
      have ofNumber : (8 * number + kind) / 8 = number := by
        omega
      have ofKind : (8 * number + kind) % 8 = kind := by
        omega
      rw [readTexts?_step present]
      simp only [List.append_assoc, leads.read, ofNumber, other, if_false, ofKind, holds.skipped]
      rfl

theorem Field.Spelled.ne_nil {field : Field} {part : List UInt8}
    (spelled : Field.Spelled field part) : part ≠ [] := by
  cases spelled with
  | text leads counts => simp [leads.spells.ne_nil]
  | unknown valid other leads holds => simp [leads.spells.ne_nil]

theorem readTexts?_fields {fields : List Field} {parts : List (List UInt8)}
    (each : List.Forall₂ Field.Spelled fields parts) (fuel : Nat)
    (enough : parts.flatten.length < fuel) (done : List (List UInt8)) :
    readTexts? fuel done parts.flatten =
      some (done.reverse ++ (known fields).map Utf8.ofString) := by
  induction each generalizing fuel done with
  | nil =>
      obtain ⟨fuel, rfl⟩ : ∃ fewer, fuel = fewer + 1 :=
        Nat.exists_eq_succ_of_ne_zero (by omega)
      simp [readTexts?, known]
  | @cons field part fields parts spelled each ih =>
      have present : 0 < part.length := List.length_pos_iff.mpr spelled.ne_nil
      rw [List.flatten_cons, List.length_append] at enough
      obtain ⟨fuel, rfl⟩ : ∃ fewer, fuel = fewer + 1 :=
        Nat.exists_eq_succ_of_ne_zero (by omega)
      rw [List.flatten_cons, spelled.readTexts?, ih fuel (by omega)]
      cases field with
      | text content => simp [known, Field.text?]
      | unknown number kind content => simp [known, List.filterMap_cons, Field.text?]

theorem Spelled.texts? {fields : List Field} {bytes : List UInt8}
    (spelled : Spelled fields bytes) :
    Wire.texts? bytes = some ((known fields).map Utf8.ofString) := by
  obtain ⟨parts, each, rfl⟩ := spelled
  exact readTexts?_fields each _ (Nat.lt_succ_self _) []

end Wire

namespace Rpc

open Wire (Spelled known)

theorem reply_spelled {fields : List Wire.Field} {bytes : List UInt8}
    (spelled : Spelled fields bytes) (call : NodeCall) :
    reply call (.bytes bytes) = .ok (assembled call ((known fields).map Text.ofString)) := by
  have back : (((known fields).map Utf8.ofString).map fun content =>
      Text.ofString (Utf8.toStringLossy content)) = (known fields).map Text.ofString := by
    rw [List.map_map]
    refine List.map_congr_left fun text _ => ?_
    rw [Function.comp_apply, Utf8.toStringLossy_ofString]
  simp only [reply_bytes, spelled.texts?, back]

theorem getLast?_texts (texts : List String) :
    ((texts.map Text.ofString).getLast?.getD "" : Text) = (texts.getLast?.getD "" : String) := by
  rw [List.getLast?_map]
  cases texts.getLast? with
  | none => rfl
  | some text => rfl

/-- The texts of a response are read, all of them and in order; what else it holds, and how it is
spelled, counts for nothing. -/
theorem reply_reads_every_text (fields : List Wire.Field) (bytes : List UInt8)
    (spelled : Spelled fields bytes) :
    reply .listPeers (.bytes bytes) = .ok ((known fields).map Text.ofString) ∧
    (∀ line, reply (.run line) (.bytes bytes) = .ok ((known fields).getLast?.getD "" : String)) ∧
    (∀ fileName,
      reply (.eval fileName) (.bytes bytes) = .ok ((known fields).getLast?.getD "" : String)) ∧
    (∀ more further, Spelled more further → ∃ first second,
      reply .listPeers (.bytes bytes) = .ok first ∧
      reply .listPeers (.bytes further) = .ok second ∧
      reply .listPeers (.bytes (bytes ++ further)) = .ok (first ++ second)) ∧
    (∀ others otherwise, Spelled others otherwise → known others = known fields →
      ∀ call, reply call (.bytes otherwise) = reply call (.bytes bytes)) ∧
    ∀ texts : List String, (∀ text ∈ texts, (Utf8.ofString text).length < 2 ^ 32) →
      reply .listPeers (.bytes (texts.flatMap fun text => Wire.textField (Utf8.ofString text))) =
        .ok (texts.map Text.ofString) := by
  refine ⟨reply_spelled spelled .listPeers, ?_, ?_, ?_, ?_, ?_⟩
  · intro line
    rw [reply_spelled spelled, ← getLast?_texts]
    rfl
  · intro fileName
    rw [reply_spelled spelled, ← getLast?_texts]
    rfl
  · intro more further spelledMore
    refine ⟨_, _, reply_spelled spelled .listPeers, reply_spelled spelledMore .listPeers, ?_⟩
    rw [reply_spelled (spelled.append spelledMore), Wire.known_append, List.map_append]
    rfl
  · intro others otherwise spelledOthers same call
    rw [reply_spelled spelledOthers, reply_spelled spelled, same]
  · intro texts small
    have read := reply_spelled (Wire.spelled_textFields small) .listPeers
    rw [Wire.known_texts] at read
    exact read

/-- The lead of the second text is spelled in two groups, and the unknown fields around it hold
bytes that look like further texts. -/
theorem texts_among_unknown_fields :
    let fields : List Wire.Field :=
      [.text "é", .unknown 2 2 [0x03, 0x0A, 0x01, 0x41], .text "", .unknown 3 0 [0x8A, 0x00],
        .unknown 536870911 5 [0x0A, 0x01, 0x41, 0x0A]]
    let bytes : List UInt8 :=
      [0x0A, 0x02, 0xC3, 0xA9, 0x12, 0x03, 0x0A, 0x01, 0x41, 0x8A, 0x00, 0x00, 0x18, 0x8A, 0x00,
        0xFD, 0xFF, 0xFF, 0xFF, 0x0F, 0x0A, 0x01, 0x41, 0x0A]
    Spelled fields bytes ∧
    reply .listPeers (.bytes bytes) = .ok [("é" : Text), ("" : Text)] ∧
    reply (.run "@0!(0)") (.bytes bytes) = .ok ("" : Text) ∧
    reply .listPeers (.bytes (bytes ++ bytes)) =
      .ok [("é" : Text), ("" : Text), ("é" : Text), ("" : Text)] ∧
    reply .listPeers (.bytes []) = .ok [] := by
  intro fields bytes
  have word {value : Nat} {spelling : List UInt8}
      (read : Wire.number? spelling = some (value, [])) (short : spelling.length ≤ 5)
      (small : value < 2 ^ 32) : Wire.SpellsWord value spelling :=
    ⟨Wire.spells_of_number? read, short, small⟩
  have accented : Utf8.ofString "é" = [0xC3, 0xA9] := by decide +kernel
  have nothing : Utf8.ofString "" = [] := by decide +kernel
  have spelled : Spelled fields bytes := by
    refine ⟨[[0x0A, 0x02, 0xC3, 0xA9], [0x12, 0x03, 0x0A, 0x01, 0x41], [0x8A, 0x00, 0x00],
      [0x18, 0x8A, 0x00], [0xFD, 0xFF, 0xFF, 0xFF, 0x0F, 0x0A, 0x01, 0x41, 0x0A]],
      .cons ?_ (.cons ?_ (.cons ?_ (.cons ?_ (.cons ?_ .nil)))), rfl⟩
    · have field := @Wire.Field.Spelled.text "é" [0x0A] [0x02] (word rfl (by decide) (by decide))
      rw [accented] at field
      exact field (word rfl (by decide) (by decide))
    · exact @Wire.Field.Spelled.unknown 2 2 [0x12] _ (by decide) (by decide)
        (word rfl (by decide) (by decide))
        (@Wire.HasKind.counted [0x03] [0x0A, 0x01, 0x41] (word rfl (by decide) (by decide)))
    · have field := @Wire.Field.Spelled.text "" [0x8A, 0x00] [0x00]
        (word rfl (by decide) (by decide))
      rw [nothing] at field
      exact field (word rfl (by decide) (by decide))
    · exact @Wire.Field.Spelled.unknown 3 0 [0x18] _ (by decide) (by decide)
        (word rfl (by decide) (by decide)) (@Wire.HasKind.number 10 _ (Wire.spells_of_number? rfl))
    · exact @Wire.Field.Spelled.unknown 536870911 5 [0xFD, 0xFF, 0xFF, 0xFF, 0x0F] _ (by decide)
        (by decide) (word rfl (by decide) (by decide)) (.four rfl)
  obtain ⟨peers, run, _, joined, _, written⟩ := reply_reads_every_text fields bytes spelled
  obtain ⟨first, second, before, behind, both⟩ := joined fields bytes spelled
  rw [peers] at before behind
  cases before
  cases behind
  exact ⟨spelled, peers, run "@0!(0)", both, written [] nofun⟩

end Rpc

end NodeConsole
