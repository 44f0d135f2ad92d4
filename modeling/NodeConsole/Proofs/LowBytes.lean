import NodeConsole.Proofs.Reading
import NodeConsole.Text.Percent

/-!
Escaped texts read by the low bytes of their characters. A reader of UTF-8 that is given one byte
for each 16-bit unit of a character, where another one is given the whole character, never catches
up: from the first such character on, what the other has read is heavier or differs already
(`Astray`). The two read the same text only if there is no such character (`lowBytes_same_iff`).
-/

namespace NodeConsole.Utf8

open Percent (Piece)

/-! Two readers of which one gets whole characters and the other their low bytes. -/

structure Agree (whole low : Reading) : Prop where
  text : whole.text = low.text
  rest : whole.rest = low.rest

/-- The second reader has missed something that it will not make up for. -/
inductive Astray (whole low : Reading) : Prop
  | differs {position : Nat} {first second : Char} (one : whole.text[position]? = some first)
      (other : low.text[position]? = some second) (different : first ≠ second)
  | ahead (clear : whole.rest = {})
      (heavier : weight low.text + low.rest.credit < weight whole.text)
  | level (same : whole.rest = low.rest) (heavier : weight low.text < weight whole.text)

theorem text_takeAll_getElem? {reading : Reading} {position : Nat} {char : Char}
    (found : reading.text[position]? = some char) (bytes : List UInt8) :
    (reading.takeAll bytes).text[position]? = some char := by
  obtain ⟨more, same⟩ := reading.items_prefix bytes
  have grown : (reading.takeAll bytes).text = reading.text ++ lossy more := by
    rw [Reading.text, ← same, lossy_append]
    rfl
  rw [grown]
  rw [List.getElem?_append_left (List.getElem?_eq_some_iff.mp found).1, found]

theorem Agree.take {whole low : Reading} (agree : Agree whole low) (byte : UInt8) :
    Agree (whole.take byte) (low.take byte) := by
  obtain ⟨text, rest⟩ := agree
  constructor
  · rw [Reading.text_take, Reading.text_take, text, rest]
  · rw [Reading.rest_take, Reading.rest_take, rest]

theorem Astray.take {whole low : Reading} (astray : Astray whole low) (byte : UInt8) :
    Astray (whole.take byte) (low.take byte) := by
  cases astray with
  | differs one other different =>
      exact .differs (text_takeAll_getElem? one [byte]) (text_takeAll_getElem? other [byte])
        different
  | ahead clear heavier =>
      have stepped : step whole.rest byte = first byte := by
        rw [clear]
        rfl
      have grown := whole.weight_take byte
      rw [stepped] at grown
      rcases first_cases byte with ⟨done, one⟩ | ⟨lead, nothing, _⟩
      · have pace := low.take_pace byte
        refine .ahead ?_ (by omega)
        rw [Reading.rest_take, stepped, done]
      · -- a byte that begins a character puts both where it stands
        have outside := step_outside low.sound byte (.inr (.inr (by omega)))
        have other := low.weight_take byte
        have finished := (finish_credit low.rest).1
        simp only [outside, nothing, List.append_nil] at other grown
        change _ = _ + 0 at grown
        refine .level ?_ (by omega)
        simp only [Reading.rest_take, stepped, outside]
  | level same heavier =>
      have grown := whole.weight_take byte
      have other := low.weight_take byte
      rw [same] at grown
      refine .level ?_ (by omega)
      rw [Reading.rest_take, Reading.rest_take, same]

def Missed (char : Char) : Prop :=
  0x80 ≤ char.toNat ∧ char ≠ replacement

theorem bytes_eq_lowBytes {char : Char} (ascii : char.toNat < 0x80) :
    (Piece.char char).bytes = [char.toNat.toUInt8] ∧
      (Piece.char char).lowBytes = [char.toNat.toUInt8] := by
  refine ⟨?_, ?_⟩
  · rw [Piece.bytes, utf8EncodeChar_ascii ascii]
  · have small : char.toNat < 0x10000 := by omega
    simp only [Piece.lowBytes, Text.ofChar, small, if_true, List.map_cons, List.map_nil]
    congr 1
    rw [← UInt8.toNat_inj, toNat_toUInt8 _ (by omega)]
    simp
    omega

theorem lowBytes_cons (char : Char) :
    ∃ byte more, (Piece.char char).lowBytes = byte :: more := by
  rw [Piece.lowBytes, Text.ofChar]
  split <;> exact ⟨_, _, rfl⟩

theorem Missed.weight {char : Char} (missed : Missed char) :
    charWeight char = (Piece.char char).lowBytes.length + 1 := by
  obtain ⟨large, other⟩ := missed
  have plain : ¬ (char.toNat < 0x80 ∨ char = replacement) := by
    rintro (ascii | same)
    · omega
    · exact other same
  rw [charWeight, if_neg plain, Piece.lowBytes, Text.ofChar]
  split <;> rfl

theorem takeAll_replacement (reading : Reading) :
    (reading.takeAll (Piece.char replacement).lowBytes).text =
        reading.text ++ lossy (finish reading.rest) ++ [replacement] ∧
      (reading.takeAll (Piece.char replacement).lowBytes).rest = {} := by
  have one : (Piece.char replacement).lowBytes = [0xFD] := by decide
  have outside := step_outside reading.sound 0xFD (.inr (.inr (by decide)))
  rw [one]
  change (reading.take 0xFD).text = _ ∧ (reading.take 0xFD).rest = {}
  rw [Reading.text_take, Reading.rest_take, outside]
  refine ⟨?_, rfl⟩
  rw [lossy_append, List.append_assoc]
  rfl

theorem weight_takeAll_char (reading : Reading) (char : Char) :
    weight (reading.takeAll (Piece.char char).bytes).text =
      weight reading.text + weight (lossy (finish reading.rest)) + charWeight char := by
  obtain ⟨text, _⟩ := reading.takeAll_char char
  rw [Piece.bytes, text, weight_append, weight_append, weight_cons, weight_nil, Nat.add_zero]

theorem Astray.takeAll_missed {whole low : Reading} (astray : Astray whole low) {char : Char}
    (missed : Missed char) :
    Astray (whole.takeAll (Piece.char char).bytes) (low.takeAll (Piece.char char).lowBytes) := by
  have grown := weight_takeAll_char whole char
  have clear := (whole.takeAll_char char).2
  have pace := low.takeAll_pace (Piece.char char).lowBytes
  have heavy := missed.weight
  cases astray with
  | differs one other different =>
      exact .differs (text_takeAll_getElem? one _) (text_takeAll_getElem? other _) different
  | ahead _ heavier => exact .ahead clear (by omega)
  | level same heavier =>
      have finished := (finish_credit low.rest).2
      rw [same] at grown
      exact .ahead clear (by omega)

theorem Astray.takeAll_replacement {whole low : Reading} (astray : Astray whole low) :
    Astray (whole.takeAll (Piece.char replacement).bytes)
      (low.takeAll (Piece.char replacement).lowBytes) := by
  have grown := weight_takeAll_char whole replacement
  have clear := (whole.takeAll_char replacement).2
  have pace := low.takeAll_pace (Piece.char replacement).lowBytes
  have light := charWeight_replacement
  cases astray with
  | differs one other different =>
      exact .differs (text_takeAll_getElem? one _) (text_takeAll_getElem? other _) different
  | ahead _ heavier =>
      have one : (Piece.char replacement).lowBytes.length = 1 := by decide
      exact .ahead clear (by omega)
  | level same heavier =>
      obtain ⟨text, rest⟩ := Utf8.takeAll_replacement low
      refine .level (clear.trans rest.symm) ?_
      rw [grown, text, weight_append, weight_append, weight_cons, weight_nil, same]
      omega

/-- The first character that is missed sets the two readers apart for good. -/
theorem Agree.takeAll_missed {whole low : Reading} (agree : Agree whole low) {char : Char}
    (missed : Missed char) :
    Astray (whole.takeAll (Piece.char char).bytes) (low.takeAll (Piece.char char).lowBytes) := by
  obtain ⟨text, rest⟩ := agree
  have grown := weight_takeAll_char whole char
  obtain ⟨read, clear⟩ := whole.takeAll_char char
  have heavy := missed.weight
  rw [text, rest] at grown read
  by_cases under : low.rest.lacking = 1 ∧ 0x400 ≤ low.rest.bits
  · -- the low byte may be the last one of a character outside the first plane
    obtain ⟨last, large⟩ := under
    obtain ⟨byte, more, bytes⟩ := lowBytes_cons char
    have given : finish low.rest = [none] := by simp [finish, last]
    rw [given] at grown read
    rw [bytes] at heavy ⊢
    change Astray _ ((low.take byte).takeAll more)
    by_cases inside : low.rest.least ≤ byte ∧ byte ≤ low.rest.greatest
    · have one : (whole.takeAll (Piece.char char).bytes).text[low.text.length]? =
          some replacement := by
        rw [Piece.bytes, read, List.append_assoc, List.getElem?_append_right (Nat.le_refl _),
          Nat.sub_self]
        rfl
      have other : (low.take byte).text[low.text.length]? =
          some (Char.ofNat (low.rest.bits * 64 + (byte.toNat - 0x80))) := by
        rw [low.text_take, step_last last inside, lossy_some, List.getElem?_concat_length]
      have different := ofNat_ne_replacement
        (show 0x10000 ≤ low.rest.bits * 64 + (byte.toNat - 0x80) by omega)
      exact .differs one (text_takeAll_getElem? other more) different.symm
    · have pace := (low.take byte).takeAll_pace more
      have one := first_pace byte
      have broken := low.weight_take byte
      rw [Reading.rest_take] at pace
      rw [step_refused (by omega) inside] at broken pace
      simp only at pace
      change _ = _ + (charWeight replacement + weight (lossy (first byte).2)) at broken
      change weight _ = _ + (charWeight replacement + 0) + _ at grown
      rw [charWeight_replacement] at broken grown
      rw [List.length_cons] at heavy
      refine .ahead clear ?_
      omega
  · have covered := credit_eq_finish under
    have pace := low.takeAll_pace (Piece.char char).lowBytes
    exact .ahead clear (by omega)

theorem Agree.whole_eq {whole low : Reading} (agree : Agree whole low) :
    whole.whole = low.whole := by
  rw [Reading.whole, Reading.whole, agree.text, agree.rest]

theorem Astray.whole_ne {whole low : Reading} (astray : Astray whole low) :
    whole.whole ≠ low.whole := by
  intro same
  have weights := congrArg weight same
  simp only [Reading.whole, weight_append] at weights
  cases astray with
  | @differs position first second one other different =>
      have first : whole.whole[position]? = some first := by
        rw [Reading.whole, List.getElem?_append_left (List.getElem?_eq_some_iff.mp one).1, one]
      have second : low.whole[position]? = some second := by
        rw [Reading.whole, List.getElem?_append_left (List.getElem?_eq_some_iff.mp other).1, other]
      rw [same, second] at first
      exact different (Option.some.inj first).symm
  | ahead clear heavier =>
      have finished := (finish_credit low.rest).1
      rw [clear] at weights
      change _ + 0 = _ at weights
      omega
  | level rest heavier =>
      rw [rest] at weights
      omega

theorem Astray.takeAll_piece {whole low : Reading} (astray : Astray whole low) (piece : Piece) :
    Astray (whole.takeAll piece.bytes) (low.takeAll piece.lowBytes) := by
  cases piece with
  | byte value => exact astray.take value
  | char char =>
      by_cases ascii : char.toNat < 0x80
      · obtain ⟨bytes, low⟩ := bytes_eq_lowBytes ascii
        rw [bytes, low]
        exact astray.take _
      · by_cases same : char = replacement
        · subst same
          exact astray.takeAll_replacement
        · exact astray.takeAll_missed ⟨by omega, same⟩

theorem Agree.takeAll_piece {whole low : Reading} (agree : Agree whole low) {piece : Piece}
    (kept : ∀ char, piece = .char char → ¬ Missed char) :
    Agree (whole.takeAll piece.bytes) (low.takeAll piece.lowBytes) := by
  cases piece with
  | byte value => exact agree.take value
  | char char =>
      by_cases ascii : char.toNat < 0x80
      · obtain ⟨bytes, low⟩ := bytes_eq_lowBytes ascii
        rw [bytes, low]
        exact agree.take _
      · by_cases same : char = replacement
        · subst same
          obtain ⟨first, clear⟩ := whole.takeAll_char replacement
          obtain ⟨second, rest⟩ := takeAll_replacement low
          refine ⟨?_, clear.trans rest.symm⟩
          rw [second, ← agree.text, ← agree.rest]
          exact first
        · exact absurd ⟨by omega, same⟩ (kept char rfl)

theorem Astray.takeAll {whole low : Reading} (astray : Astray whole low) (pieces : List Piece) :
    Astray (whole.takeAll (pieces.flatMap Piece.bytes))
      (low.takeAll (pieces.flatMap Piece.lowBytes)) := by
  induction pieces generalizing whole low with
  | nil => exact astray
  | cons piece rest ih =>
      rw [List.flatMap_cons, List.flatMap_cons, Reading.takeAll_append, Reading.takeAll_append]
      exact ih (astray.takeAll_piece piece)

theorem Agree.takeAll {whole low : Reading} (agree : Agree whole low) (pieces : List Piece) :
    (∀ char, .char char ∈ pieces → ¬ Missed char) ∧
        Agree (whole.takeAll (pieces.flatMap Piece.bytes))
          (low.takeAll (pieces.flatMap Piece.lowBytes)) ∨
      (∃ char, .char char ∈ pieces ∧ Missed char) ∧
        Astray (whole.takeAll (pieces.flatMap Piece.bytes))
          (low.takeAll (pieces.flatMap Piece.lowBytes)) := by
  induction pieces generalizing whole low with
  | nil => exact .inl ⟨nofun, agree⟩
  | cons piece rest ih =>
      rw [List.flatMap_cons, List.flatMap_cons, Reading.takeAll_append, Reading.takeAll_append]
      by_cases missed : ∃ char, piece = .char char ∧ Missed char
      · obtain ⟨char, rfl, missed⟩ := missed
        have astray := agree.takeAll_missed missed
        exact .inr ⟨⟨char, List.mem_cons_self, missed⟩, astray.takeAll rest⟩
      · have kept (char : Char) (same : piece = .char char) : ¬ Missed char :=
          fun lost => missed ⟨char, same, lost⟩
        rcases ih (agree.takeAll_piece kept) with ⟨others, agrees⟩ | ⟨lost, astray⟩
        · refine .inl ⟨?_, agrees⟩
          intro char among
          rcases List.mem_cons.mp among with same | among
          · exact kept char same.symm
          · exact others char among
        · obtain ⟨char, among, lost⟩ := lost
          exact .inr ⟨⟨char, List.mem_cons_of_mem piece among, lost⟩, astray⟩

/-- Low bytes read as the characters themselves exactly if none of these is missed. -/
theorem lowBytes_same_iff (pieces : List Piece) :
    decodeLossy (pieces.flatMap Piece.lowBytes) = decodeLossy (pieces.flatMap Piece.bytes) ↔
      ∀ char, .char char ∈ pieces → ¬ Missed char := by
  rw [decodeLossy_eq, decodeLossy_eq]
  have start : Agree {} {} := ⟨rfl, rfl⟩
  rcases start.takeAll pieces with ⟨kept, agree⟩ | ⟨lost, astray⟩
  · exact ⟨fun _ => kept, fun _ => agree.whole_eq.symm⟩
  · constructor
    · intro same
      exact absurd same.symm astray.whole_ne
    · intro kept
      obtain ⟨char, among, missed⟩ := lost
      exact absurd missed (kept char among)

end NodeConsole.Utf8
