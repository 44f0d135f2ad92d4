import Mathlib.Algebra.Group.Nat.Defs
import NodeConsole.Proofs.TextCoding
import NodeConsole.Rpc.Client

/-!
What is sent for a call: the path of the method, and a message that holds the text of the call. The
message is read back twice, by a reader of any fields and numbers of any size (`text?_textField`)
and by the one that reads the messages of the node (`decode?_textField`).
-/

namespace NodeConsole

namespace Wire

def number? : List UInt8 → Option (Nat × List UInt8)
  | [] => none
  | byte :: rest =>
    if byte.toNat < 128 then some (byte.toNat, rest)
    else (number? rest).map fun (high, after) => (byte.toNat - 128 + 128 * high, after)

inductive Content where
  | number (value : Nat)
  | counted (bytes : List UInt8)
  | fixed (bytes : List UInt8)
deriving DecidableEq, Repr

def cut? (count : Nat) (bytes : List UInt8) : Option (List UInt8 × List UInt8) :=
  if count ≤ bytes.length then some (bytes.splitAt count) else none

def content? (kind : Nat) (bytes : List UInt8) : Option (Content × List UInt8) :=
  match kind with
  | 0 => (number? bytes).map fun (value, rest) => (.number value, rest)
  | 1 => (cut? 8 bytes).map fun (content, rest) => (.fixed content, rest)
  | 2 => (number? bytes).bind fun (count, rest) =>
    (cut? count rest).map fun (content, after) => (.counted content, after)
  | 5 => (cut? 4 bytes).map fun (content, rest) => (.fixed content, rest)
  | _ => none

/-- The fields of a message with their numbers, in order. Each field has a byte at least, so that
the number of bytes is enough fuel. -/
def fields? : Nat → List UInt8 → Option (List (Nat × Content))
  | _, [] => some []
  | 0, _ :: _ => none
  | fuel + 1, bytes => do
    let (lead, rest) ← number? bytes
    let (content, after) ← content? (lead % 8) rest
    let others ← fields? fuel after
    pure ((lead / 8, content) :: others)

/-- The text of field number one of a message: its last content, which must be UTF-8, or the empty
text where there is none. -/
def text? (message : List UInt8) : Option String := do
  let fields ← fields? message.length message
  let contents := fields.filterMap fun
    | (1, .counted content) => some content
    | _ => none
  let chars ← Utf8.decode? (contents.getLast?.getD [])
  pure (String.ofList chars)

theorem varint_small {value : Nat} (small : value < 128) : varint value = [value.toUInt8] := by
  rw [varint, if_pos small]

theorem varint_large {value : Nat} (large : 128 ≤ value) :
    varint value = (value % 128 + 128).toUInt8 :: varint (value / 128) := by
  rw [varint, if_neg (Nat.not_lt.mpr large)]

theorem number?_varint (value : Nat) (rest : List UInt8) :
    number? (varint value ++ rest) = some (value, rest) := by
  induction value using varint.induct with
  | case1 value small =>
      have byte := Utf8.toNat_toUInt8 value (by omega)
      rw [varint_small small, List.singleton_append, number?, byte, if_pos small]
  | case2 value notSmall ih =>
      have byte := Utf8.toNat_toUInt8 (value % 128 + 128) (by omega)
      have whole : value % 128 + 128 - 128 + 128 * (value / 128) = value := by
        omega
      rw [varint_large (by omega), List.cons_append, number?, byte, if_neg (by omega), ih]
      simp only [Option.map_some, whole]

/-- A number that needs no more groups than may still come is read, and its low 32 bits are kept. -/
theorem readGroups?_varint (value groups weight low : Nat) (bound : value < 128 ^ (groups + 1))
    (rest : List UInt8) :
    readGroups? (groups + 1) weight low (varint value ++ rest) =
      some ((low + value * weight) % Nat.pow 2 32, rest) := by
  induction value using varint.induct generalizing groups weight low with
  | case1 value small =>
      have byte := Utf8.toNat_toUInt8 value (by omega)
      have last : value.toUInt8 < 128 := by
        rw [UInt8.lt_iff_toNat_lt, byte]
        exact small
      rw [varint_small small, List.singleton_append, readGroups?]
      simp only [last, if_true, byte, Nat.mod_eq_of_lt small]
  | case2 value notSmall ih =>
      have byte := Utf8.toNat_toUInt8 (value % 128 + 128) (by omega)
      have notLast : ¬ (value % 128 + 128).toUInt8 < 128 := by
        rw [UInt8.lt_iff_toNat_lt, byte]
        exact Nat.not_lt.mpr (Nat.le_add_left 128 _)
      -- a number with a further group is too large to end with this one
      obtain ⟨groups, rfl⟩ : ∃ fewer, groups = fewer + 1 := by
        refine Nat.exists_eq_succ_of_ne_zero ?_
        rintro rfl
        exact notSmall bound
      have fewer : value / 128 < 128 ^ (groups + 1) := by
        rw [Nat.div_lt_iff_lt_mul (by decide), ← Nat.pow_succ]
        exact bound
      have digits : (value % 128 + 128) % 128 * weight + value / 128 * (weight * 128) =
          value * weight := by
        rw [Nat.add_mod_right, Nat.mod_mod, Nat.mul_comm weight, ← Nat.mul_assoc, ← Nat.add_mul,
          Nat.mod_add_div']
      rw [varint_large (by omega), List.cons_append, readGroups?]
      simp only [notLast, if_false, byte]
      rw [ih groups _ _ fewer, Nat.add_assoc, digits]

theorem readWord?_varint {value : Nat} (small : value < 2 ^ 32) (rest : List UInt8) :
    readWord? (varint value ++ rest) = some (value, rest) := by
  have bound : value < 128 ^ (4 + 1) := Nat.lt_trans small (by decide)
  have whole : value % Nat.pow 2 32 = value := Nat.mod_eq_of_lt small
  rw [readWord?, readGroups?_varint value 4 1 0 bound, Nat.zero_add, Nat.mul_one, whole]

theorem cut?_all (bytes : List UInt8) : cut? bytes.length bytes = some (bytes, []) := by
  rw [cut?, if_pos (Nat.le_refl _), List.splitAt_eq, List.take_length, List.drop_length]

theorem fields?_textField (content : List UInt8) (fuel : Nat) :
    fields? (fuel + 1) (textField content) = some [(1, .counted content)] := by
  have lead : number? (textField content) = some (10, varint content.length ++ content) :=
    rfl
  have whole : content? 2 (varint content.length ++ content) = some (.counted content, []) := by
    simp only [content?, number?_varint, Option.bind_some, cut?_all, Option.map_some]
  have started : fields? (fuel + 1) (textField content) = (do
      let (lead, rest) ← number? (textField content)
      let (content, after) ← content? (lead % 8) rest
      let others ← fields? fuel after
      pure ((lead / 8, content) :: others)) := rfl
  rw [started, lead]
  change (do
      let (content, after) ← content? 2 (varint content.length ++ content)
      let others ← fields? fuel after
      pure ((1, content) :: others)) = _
  rw [whole]
  cases fuel <;> rfl

theorem text?_textField (text : String) : text? (textField (Utf8.ofString text)) = some text := by
  have read := fields?_textField (Utf8.ofString text)
    (varint (Utf8.ofString text).length ++ Utf8.ofString text).length
  have counted : (textField (Utf8.ofString text)).length =
      (varint (Utf8.ofString text).length ++ Utf8.ofString text).length + 1 := rfl
  rw [text?, counted, read]
  change (do
      let chars ← Utf8.decode? (Utf8.encode text.toList)
      pure (String.ofList chars)) = some text
  rw [Utf8.decode?_encode]
  exact congrArg some (String.ofList_toList)

theorem texts?_textField {content : List UInt8} (small : content.length < 2 ^ 32) :
    texts? (textField content) = some [content] := by
  have lead : readWord? (0x0A :: (varint content.length ++ content)) =
      some (10, varint content.length ++ content) := rfl
  have counted : (textField content).length = (varint content.length ++ content).length + 1 := rfl
  rw [texts?, counted, textField, List.cons_append, readTexts?, lead]
  simp only [Nat.reduceDiv, if_true, readWord?_varint small, List.take_length, List.drop_length]
  rfl

theorem textContent_ofString (text : String) :
    textContent (Text.ofString text) = Utf8.ofString text := by
  rw [textContent, Text.ofString, Text.items_ofChars, Text.toChars_ofChars,
    Utf8.encodeItems_chars, ite_self]
  rfl

end Wire

namespace Rpc

open Json (Fields Value)

theorem fields_get_only (name : Text) (value : Value) :
    Fields.get [(name, value)] name = value := by
  simp [Fields.get]

theorem encode_text (message name : String) (repeated : Bool) (text : String) :
    ({ name := message, field := some { name, repeated } } : Message).encode
      (.object [(Text.ofString name, .string (Text.ofString text))]) =
      Wire.textField (Utf8.ofString text) := by
  simp only [Message.encode, Value.field, fields_get_only, Message.isMissing, Bool.false_eq_true,
    if_false, Message.writtenText, Wire.textContent_ofString]

theorem request_run (target : Text) (code : String) :
    request target (.run code) =
      { target, path := "/rnode.Repl/Run", body := Wire.textField (Utf8.ofString code) } := by
  have body := encode_text "CmdRequest" "line" false code
  have path : methodPath "Repl" "Run" = "/rnode.Repl/Run" := by decide
  exact congrArg₂ (Request.mk target) path body

theorem request_eval (target : Text) (fileName : String) :
    request target (.eval fileName) =
      { target, path := "/rnode.Repl/Eval", body := Wire.textField (Utf8.ofString fileName) } := by
  have body := encode_text "EvalRequest" "fileName" false fileName
  have path : methodPath "Repl" "Eval" = "/rnode.Repl/Eval" := by decide
  exact congrArg₂ (Request.mk target) path body

theorem request_listPeers (target : Text) :
    request target .listPeers = { target, path := "/rnode.Diagnostics/ListPeers", body := [] } := by
  have path : methodPath "Diagnostics" "ListPeers" = "/rnode.Diagnostics/ListPeers" := by decide
  exact congrArg₂ (Request.mk target) path rfl

theorem decode?_textField (message name : String) (text : String)
    (small : (Utf8.ofString text).length < 2 ^ 32) :
    ({ name := message, field := some { name } } : Message).decode?
      (Wire.textField (Utf8.ofString text)) =
      some (.object [(Text.ofString name, .ofString text)]) := by
  rw [Message.decode?, Wire.texts?_textField small]
  simp only [Option.map_some, List.map_cons, List.map_nil, Utf8.toStringLossy_ofString]
  rfl

end Rpc

end NodeConsole
