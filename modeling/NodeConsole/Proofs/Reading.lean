import NodeConsole.Proofs.TextCoding

/-!
Reading UTF-8 byte by byte. A reading holds what has been read and what is under way; a character
comes in whole wherever it stands (`takeAll_char`), and no byte brings more than one unit of weight,
if what is under way is given credit for what it may still bring (`takeAll_pace`).
-/

namespace NodeConsole.Utf8

def replacement : Char := Char.ofNat 0xFFFD

def lossy (items : List (Option Char)) : List Char :=
  items.map fun item => item.getD (Char.ofNat 0xFFFD)

structure Unfinished.Sound (state : Unfinished) : Prop where
  least : 0x80 ≤ state.least.toNat
  greatest : state.greatest.toNat ≤ 0xBF
  clear : state.lacking = 0 → state = {}

theorem sound_clear : Unfinished.Sound {} where
  least := Nat.le_refl _
  greatest := Nat.le_refl _
  clear _ := rfl

theorem sound_started {state : Unfinished} (more : state.lacking ≠ 0)
    (least : 0x80 ≤ state.least.toNat) (greatest : state.greatest.toNat ≤ 0xBF) : state.Sound where
  least := least
  greatest := greatest
  clear none := absurd none more

theorem first_sound (byte : UInt8) : (first byte).1.Sound := by
  rw [first_eq]
  split
  · exact sound_clear
  · split
    · exact sound_clear
    · split
      · exact sound_started Nat.one_ne_zero (Nat.le_refl _) (Nat.le_refl _)
      · split
        · apply sound_started (Nat.succ_ne_zero 1)
          all_goals
            simp only
            split <;> decide
        · split
          · apply sound_started (Nat.succ_ne_zero 2)
            all_goals
              simp only
              split <;> decide
          · exact sound_clear

theorem step_sound (state : Unfinished) (byte : UInt8) : (step state byte).1.Sound := by
  unfold step
  by_cases clear : state.lacking = 0
  · rw [if_pos clear]
    exact first_sound byte
  · rw [if_neg clear]
    split
    · by_cases last : state.lacking = 1
      · simp only [last, if_true]
        exact sound_clear
      · simp only [last, if_false]
        refine sound_started ?_ (Nat.le_refl _) (Nat.le_refl _)
        simp only
        omega
    · exact first_sound byte

structure Reading where
  items : List (Option Char) := []
  rest : Unfinished := {}
  sound : rest.Sound := by exact sound_clear

namespace Reading

def text (reading : Reading) : List Char :=
  lossy reading.items

def take (reading : Reading) (byte : UInt8) : Reading where
  items := reading.items ++ (step reading.rest byte).2
  rest := (step reading.rest byte).1
  sound := step_sound reading.rest byte

def takeAll (reading : Reading) (bytes : List UInt8) : Reading :=
  bytes.foldl take reading

def whole (reading : Reading) : List Char :=
  reading.text ++ lossy (finish reading.rest)

def settle (reading : Reading) : Reading where
  items := reading.items ++ finish reading.rest

theorem takeAll_append (reading : Reading) (first second : List UInt8) :
    reading.takeAll (first ++ second) = (reading.takeAll first).takeAll second :=
  List.foldl_append

theorem items_takeAll (reading : Reading) (bytes : List UInt8) :
    decodeFrom reading.rest reading.items.reverse bytes =
      (reading.takeAll bytes).items ++ finish (reading.takeAll bytes).rest := by
  induction bytes generalizing reading with
  | nil =>
      have same : (finish reading.rest).reverse = finish reading.rest := by
        unfold finish
        split <;> rfl
      rw [decodeFrom, List.reverse_append, List.reverse_reverse, same]
      rfl
  | cons byte rest ih =>
      rw [decodeFrom, ← List.reverse_append]
      exact ih (reading.take byte)

end Reading

theorem decodeLossy_eq (bytes : List UInt8) :
    decodeLossy bytes = (({} : Reading).takeAll bytes).whole := by
  have read := Reading.items_takeAll {} bytes
  rw [decodeLossy, decode, Reading.whole, Reading.text, lossy, lossy, ← List.map_append, ← read]
  rfl

/-! Each byte brings at most one more unit of weight, if what is under way is given credit. -/

/-- Characters outside ASCII weigh one more than they have 16-bit units. -/
def charWeight (char : Char) : Nat :=
  if char.toNat < 0x80 ∨ char = replacement then 1
  else if char.toNat < 0x10000 then 2
  else 3

def weight : List Char → Nat
  | [] => 0
  | char :: rest => charWeight char + weight rest

/-- What the end of the bytes or the next one may bring. Only the last byte of a character outside
the first plane brings two units more than its own. -/
def Unfinished.credit (state : Unfinished) : Nat :=
  if state.lacking = 0 then 0
  else if state.lacking = 1 ∧ 0x400 ≤ state.bits then 2
  else 1

@[simp] theorem weight_nil : weight [] = 0 := rfl

@[simp] theorem weight_cons (char : Char) (text : List Char) :
    weight (char :: text) = charWeight char + weight text := rfl

@[simp] theorem weight_append (first second : List Char) :
    weight (first ++ second) = weight first + weight second := by
  induction first with
  | nil => simp
  | cons char rest ih =>
      simp only [List.cons_append, weight_cons, ih]
      omega

theorem charWeight_replacement : charWeight replacement = 1 := by
  rw [charWeight, if_pos (.inr rfl)]

theorem charWeight_le (char : Char) : charWeight char ≤ 3 := by
  unfold charWeight
  split
  · omega
  · split <;> omega

theorem charWeight_small {char : Char} (small : char.toNat < 0x10000) : charWeight char ≤ 2 := by
  simp only [charWeight, small, if_true]
  split <;> omega

@[simp] theorem lossy_append (first second : List (Option Char)) :
    lossy (first ++ second) = lossy first ++ lossy second := by
  simp [lossy]

theorem lossy_some (char : Char) : lossy [some char] = [char] := rfl

theorem weight_finish (state : Unfinished) :
    weight (lossy (finish state)) = if state.lacking = 0 then 0 else 1 := by
  unfold finish
  split
  · rfl
  · exact charWeight_replacement

theorem credit_le (state : Unfinished) : state.credit ≤ 2 := by
  unfold Unfinished.credit
  split
  · omega
  · split <;> omega

theorem credit_eq_finish {state : Unfinished}
    (other : ¬ (state.lacking = 1 ∧ 0x400 ≤ state.bits)) :
    state.credit = weight (lossy (finish state)) := by
  rw [weight_finish, Unfinished.credit, if_neg other]

theorem finish_credit (state : Unfinished) :
    weight (lossy (finish state)) ≤ state.credit ∧
      state.credit ≤ weight (lossy (finish state)) + 1 := by
  rw [weight_finish]
  unfold Unfinished.credit
  split
  · omega
  · split <;> omega

theorem toNat_ofNat (value : Nat) :
    (Char.ofNat value).toNat = value ∨ (Char.ofNat value).toNat = 0 := by
  by_cases valid : value.isValidChar
  · rw [Char.ofNat, dif_pos valid]
    exact .inl rfl
  · rw [Char.ofNat, dif_neg valid]
    exact .inr rfl

theorem toNat_ofNat_le (value : Nat) : (Char.ofNat value).toNat ≤ value := by
  rcases toNat_ofNat value with same | zero <;> omega

theorem ofNat_ne_replacement {value : Nat} (large : 0x10000 ≤ value) :
    Char.ofNat value ≠ replacement := by
  intro same
  have number : (Char.ofNat value).toNat = 0xFFFD := by
    rw [same]
    rfl
  rcases toNat_ofNat value with same | zero <;> omega

theorem charWeight_ascii {char : Char} (ascii : char.toNat < 0x80) : charWeight char = 1 := by
  rw [charWeight, if_pos (.inl ascii)]

theorem weight_item (item : Option Char) :
    weight (lossy [item]) = charWeight (item.getD replacement) := by
  rfl

/-- A byte where a character starts: it is read at once, or begins one. -/
theorem first_cases (byte : UInt8) :
    ((first byte).1 = {} ∧ weight (lossy (first byte).2) = 1) ∨
      (0xC2 ≤ byte.toNat ∧ (first byte).2 = [] ∧ (first byte).1.credit = 1) := by
  rw [first_eq]
  by_cases ascii : byte.toNat < 0x80
  · have same : (Char.ofNat byte.toNat).toNat < 0x80 :=
      Nat.lt_of_le_of_lt (toNat_ofNat_le byte.toNat) ascii
    rw [if_pos ascii]
    exact .inl ⟨rfl, charWeight_ascii same⟩
  · rw [if_neg ascii]
    by_cases tail : byte.toNat < 0xC2
    · rw [if_pos tail]
      exact .inl ⟨rfl, charWeight_replacement⟩
    · rw [if_neg tail]
      split
      · refine .inr ⟨by omega, rfl, ?_⟩
        have few : ¬ (0x400 ≤ byte.toNat - 0xC0) := by omega
        simp [Unfinished.credit, few]
      · split
        · exact .inr ⟨by omega, rfl, rfl⟩
        · split
          · exact .inr ⟨by omega, rfl, rfl⟩
          · exact .inl ⟨rfl, charWeight_replacement⟩

theorem first_pace (byte : UInt8) :
    weight (lossy (first byte).2) + (first byte).1.credit = 1 := by
  rcases first_cases byte with ⟨clear, one⟩ | ⟨_, nothing, one⟩
  · rw [clear, one]
    rfl
  · rw [nothing, one]
    rfl

theorem step_clear {state : Unfinished} (clear : state.lacking = 0) (byte : UInt8) :
    step state byte = first byte := by
  rw [step, if_pos clear]

theorem step_outside {state : Unfinished} (sound : state.Sound) (byte : UInt8)
    (starts : state.lacking = 0 ∨ byte.toNat < 0x80 ∨ 0xBF < byte.toNat) :
    step state byte = ((first byte).1, finish state ++ (first byte).2) := by
  have least := sound.least
  have greatest := sound.greatest
  by_cases clear : state.lacking = 0
  · rw [step_clear clear, finish, if_pos clear]
    rfl
  · have outside : ¬ (state.least ≤ byte ∧ byte ≤ state.greatest) := by
      rw [UInt8.le_iff_toNat_le, UInt8.le_iff_toNat_le]
      omega
    rw [step, if_neg clear, if_neg outside, finish, if_neg clear]
    rfl

theorem step_refused {state : Unfinished} {byte : UInt8} (under : state.lacking ≠ 0)
    (outside : ¬ (state.least ≤ byte ∧ byte ≤ state.greatest)) :
    step state byte = ((first byte).1, none :: (first byte).2) := by
  rw [step, if_neg under, if_neg outside]

/-- The last byte of a character. -/
theorem step_last {state : Unfinished} {byte : UInt8} (last : state.lacking = 1)
    (inside : state.least ≤ byte ∧ byte ≤ state.greatest) :
    step state byte = ({}, [some (Char.ofNat (state.bits * 64 + (byte.toNat - 0x80)))]) := by
  rw [step, if_neg (by omega), if_pos inside]
  simp only [last, if_true]

theorem step_pace {state : Unfinished} (sound : state.Sound) (byte : UInt8) :
    weight (lossy (step state byte).2) + (step state byte).1.credit ≤ state.credit + 1 := by
  have pace := first_pace byte
  by_cases clear : state.lacking = 0
  · rw [step_clear clear]
    omega
  · have credited : 1 ≤ state.credit := by
      unfold Unfinished.credit
      rw [if_neg clear]
      split <;> omega
    by_cases inside : state.least ≤ byte ∧ byte ≤ state.greatest
    · by_cases last : state.lacking = 1
      · have bound : byte.toNat ≤ 0xBF :=
          Nat.le_trans (UInt8.le_iff_toNat_le.mp inside.2) sound.greatest
        have value := toNat_ofNat_le (state.bits * 64 + (byte.toNat - 0x80))
        rw [step_last last inside]
        change weight (lossy [_]) + 0 ≤ _
        rw [weight_item, Option.getD_some]
        by_cases large : 0x400 ≤ state.bits
        · have credit : state.credit = 2 := by simp [Unfinished.credit, last, large]
          have atMost := charWeight_le (Char.ofNat (state.bits * 64 + (byte.toNat - 0x80)))
          omega
        · have atMost : charWeight (Char.ofNat (state.bits * 64 + (byte.toNat - 0x80))) ≤ 2 :=
            charWeight_small (by omega)
          omega
      · have atMost := credit_le (step state byte).1
        have nothing : (step state byte).2 = [] := by
          rw [step, if_neg clear, if_pos inside]
          simp only [last, if_false]
        rw [nothing]
        change 0 + _ ≤ _
        omega
    · rw [step_refused clear inside]
      change weight (lossy ([none] ++ (first byte).2)) + (first byte).1.credit ≤ _
      rw [lossy_append, weight_append, weight_item, Option.getD_none, charWeight_replacement]
      omega

theorem utf8EncodeChar_ascii {char : Char} (ascii : char.toNat < 0x80) :
    String.utf8EncodeChar char = [char.toNat.toUInt8] := by
  rw [utf8EncodeChar_eq, if_pos (by omega)]

/-- No character begins with a byte that could continue another one. -/
theorem utf8EncodeChar_starts (char : Char) :
    ∃ byte rest, String.utf8EncodeChar char = byte :: rest ∧
      (byte.toNat < 0x80 ∨ 0xBF < byte.toNat) := by
  by_cases ascii : char.toNat < 0x80
  · refine ⟨_, _, utf8EncodeChar_ascii ascii, .inl ?_⟩
    rw [toNat_toUInt8 _ (by omega)]
    exact ascii
  · rw [utf8EncodeChar_eq, if_neg (by omega)]
    split
    · refine ⟨_, _, rfl, .inr ?_⟩
      rw [toNat_toUInt8 _ (by omega)]
      omega
    · split
      · refine ⟨_, _, rfl, .inr ?_⟩
        rw [toNat_toUInt8 _ (by omega)]
        omega
      · refine ⟨_, _, rfl, .inr ?_⟩
        rw [toNat_toUInt8 _ (by omega)]
        omega

namespace Reading

theorem text_take (reading : Reading) (byte : UInt8) :
    (reading.take byte).text = reading.text ++ lossy (step reading.rest byte).2 :=
  lossy_append ..

theorem weight_take (reading : Reading) (byte : UInt8) :
    weight (reading.take byte).text =
      weight reading.text + weight (lossy (step reading.rest byte).2) := by
  rw [text_take, weight_append]

theorem rest_take (reading : Reading) (byte : UInt8) :
    (reading.take byte).rest = (step reading.rest byte).1 := by
  rfl

theorem take_outside (reading : Reading) (byte : UInt8)
    (starts : reading.rest.lacking = 0 ∨ byte.toNat < 0x80 ∨ 0xBF < byte.toNat) :
    reading.take byte = reading.settle.take byte := by
  simp only [take, settle, step_outside reading.sound byte starts, step_start, List.append_assoc]

theorem take_pace (reading : Reading) (byte : UInt8) :
    weight (reading.take byte).text + (reading.take byte).rest.credit ≤
      weight reading.text + reading.rest.credit + 1 := by
  have pace := step_pace reading.sound byte
  rw [weight_take, rest_take]
  omega

theorem takeAll_pace (reading : Reading) (bytes : List UInt8) :
    weight (reading.takeAll bytes).text + (reading.takeAll bytes).rest.credit ≤
      weight reading.text + reading.rest.credit + bytes.length := by
  induction bytes generalizing reading with
  | nil => exact Nat.le_refl _
  | cons byte rest ih =>
      have one := take_pace reading byte
      have more := ih (reading.take byte)
      rw [List.length_cons]
      exact Nat.le_trans more (by omega)

theorem items_prefix (reading : Reading) (bytes : List UInt8) :
    reading.items <+: (reading.takeAll bytes).items := by
  induction bytes generalizing reading with
  | nil => exact List.prefix_rfl
  | cons byte rest ih => exact (List.prefix_append _ _).trans (ih (reading.take byte))

theorem takeAll_clear (reading : Reading) (clear : reading.rest = {}) (char : Char) :
    (reading.takeAll (String.utf8EncodeChar char)).items = reading.items ++ [some char] ∧
      (reading.takeAll (String.utf8EncodeChar char)).rest = {} := by
  -- that the character is read to its end shows in what is read when the bytes end behind it
  have read := decodeFrom_char reading.items.reverse char []
  have items := items_takeAll reading (String.utf8EncodeChar char)
  rw [List.append_nil] at read
  rw [clear, read] at items
  have last : reading.items ++ [some char] =
      (reading.takeAll (String.utf8EncodeChar char)).items ++
        finish (reading.takeAll (String.utf8EncodeChar char)).rest := by
    rw [← items, decodeFrom]
    simp [finish]
  by_cases done : (reading.takeAll (String.utf8EncodeChar char)).rest.lacking = 0
  · rw [finish, if_pos done, List.append_nil] at last
    exact ⟨last.symm, (reading.takeAll _).sound.clear done⟩
  · rw [finish, if_neg done] at last
    cases (List.append_inj' last rfl).2

/-- A character in UTF-8 is read as it is, and what was under way before it is given up. -/
theorem takeAll_char (reading : Reading) (char : Char) :
    (reading.takeAll (String.utf8EncodeChar char)).text =
        reading.text ++ lossy (finish reading.rest) ++ [char] ∧
      (reading.takeAll (String.utf8EncodeChar char)).rest = {} := by
  have settled : reading.takeAll (String.utf8EncodeChar char) =
      reading.settle.takeAll (String.utf8EncodeChar char) := by
    obtain ⟨byte, rest, encoded, starts⟩ := utf8EncodeChar_starts char
    rw [encoded]
    change (reading.take byte).takeAll rest = (reading.settle.take byte).takeAll rest
    rw [take_outside reading byte (.inr starts)]
  obtain ⟨items, clear⟩ := takeAll_clear reading.settle rfl char
  rw [settled]
  refine ⟨?_, clear⟩
  rw [text, items, settle, lossy_append, lossy_append]
  rfl

end Reading

end NodeConsole.Utf8
