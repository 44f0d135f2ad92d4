import NodeConsole.Proofs.NumeralSpelling
import NodeConsole.Proofs.RoundingError
import NodeConsole.Proofs.SettingsFile

/-!
Which port a spelling in the environment makes. A numeral is rounded before it is checked to be an
integer and in range, so acceptance is told from the exact value in both directions: integers in
range are kept (`round_port`), and what is accepted lies next to the value that was written
(`error_of_port`).
-/

namespace NodeConsole

inductive PortField where
  | node
  | page
deriving DecidableEq, Repr

namespace PortField

def key : PortField → String
  | node => "RNODE_PORT"
  | page => "RNODE_WEB_PORT"

def other : PortField → PortField
  | node => page
  | page => node

def of (config : Config) : PortField → Int
  | node => config.port
  | page => config.webPort

end PortField

namespace Config

open Environment (Spells)

/-- Nothing but this port can keep a configuration from being loaded: a file that is asked for has
no fault, and the other variable, if it is set, spells a port. -/
structure SoundElsewhere (system : FileSystem) (environment : Environment) (options : LoadOptions)
    (field : PortField) : Prop where
  file : ∀ path cause, Asked options environment path →
    ¬ Fault system (located system options path) cause
  port : ¬ environment.BadPort field.other.key

variable {system : FileSystem} {environment : Environment} {options : LoadOptions}
variable {field : PortField} {text : Text} {config : Config}

theorem SoundElsewhere.fileGives (sound : SoundElsewhere system environment options field) :
    ∃ file, FileGives system environment options file := by
  rcases file_cases system environment options with ⟨path, asked⟩ | ⟨unasked, _⟩
  · obtain ⟨settings, holds⟩ := holds_of_no_fault fun cause => sound.file path cause asked
    exact ⟨settings, .asked asked holds⟩
  · exact fileGives_of_unasked system unasked

theorem SoundElsewhere.givesPort (sound : SoundElsewhere system environment options field) :
    ∃ given, environment.GivesPort field.other.key given ∧ ∀ port ∈ given, IsPort port := by
  rcases environment.misspells_or_gives field.other.key with ⟨text, misspelt⟩ | ⟨given, gives⟩
  · exact (sound.port misspelt.bad).elim
  · refine ⟨given, gives, ?_⟩
    by_contra outside
    exact sound.port (gives.bad_iff.mpr outside)

theorem spelled_of_gives {given : Option Int} {name : String} {standing : Int}
    (sets : environment.Sets name text) (gives : environment.GivesPort name given) :
    Spells text (given.getD standing) := by
  cases gives with
  | unset unset => exact (unset text sets).elim
  | spelled also spells =>
      obtain rfl := sets.unique also
      exact spells

theorem load_spells (sets : environment.Sets field.key text)
    (loaded : (load system environment options).result = .ok config) :
    Spells text (field.of config) ∧ IsPort (field.of config) := by
  obtain ⟨file, given, _, gives, rfl, valid⟩ := load_eq_ok_iff.mp loaded
  cases field with
  | node => exact ⟨spelled_of_gives sets gives.port, valid.port⟩
  | page => exact ⟨spelled_of_gives sets gives.webPort, valid.webPort⟩

theorem FileGives.loads {file given : Settings}
    (fromFile : FileGives system environment options file) (gives : environment.Gives given)
    (port : ∀ port ∈ given.port, IsPort port) (webPort : ∀ port ∈ given.webPort, IsPort port) :
    (load system environment options).result = .ok ((standard.override file).override given) :=
  have valid := standard_valid.override fromFile.valid
  load_eq_ok_iff.mpr ⟨file, given, fromFile, gives, rfl,
    valid.override ⟨gives.filled, port, webPort⟩⟩

theorem load_accepts {port : Int} (sound : SoundElsewhere system environment options field)
    (sets : environment.Sets field.key text) (spells : Spells text port)
    (usable : IsPort port) :
    ∃ config, (load system environment options).result = .ok config ∧ field.of config = port := by
  obtain ⟨file, fromFile⟩ := sound.fileGives
  obtain ⟨otherGiven, otherGives, otherUsable⟩ := sound.givesPort
  have own : environment.GivesPort field.key (some port) := .spelled sets spells
  have ownUsable : ∀ given ∈ some port, IsPort given := by
    rintro given ⟨⟩
    exact usable
  cases field with
  | node =>
      have gives : environment.Gives
          { host := environment.set? "RNODE_HOST", port := some port, webPort := otherGiven } :=
        ⟨fun _ => Environment.set?_eq_some_iff, own, otherGives⟩
      exact ⟨_, fromFile.loads gives ownUsable otherUsable, rfl⟩
  | page =>
      have gives : environment.Gives
          { host := environment.set? "RNODE_HOST", port := otherGiven, webPort := some port } :=
        ⟨fun _ => Environment.set?_eq_some_iff, otherGives, own⟩
      exact ⟨_, fromFile.loads gives otherUsable ownUsable, rfl⟩

theorem spells_iff {numeral : Numeral} {port : Int} (read : Numeral.ofText? text = some numeral) :
    Spells text port ↔ numeral.toNumber = .ofInt port := by
  simp only [Spells, read, Option.some.injEq, exists_eq_left']

theorem error_of_port {value : Rat} {port : Int} (usable : IsPort port)
    (rounded : Binary64.round value = .ofInt port) : |value - port| ≤ 1 / 2 ^ 38 := by
  obtain ⟨above, below⟩ := usable
  have small : |(port : Rat)| < 2 ^ (16 : Int) := by
    rw [Binary64.abs_intCast]
    have count : port.natAbs < 2 ^ 16 := by omega
    exact_mod_cast count
  calc |value - port| ≤ 2 ^ ((16 : Int) - 54) :=
        Binary64.round_error_of_lt (by norm_num) rounded small
    _ = 1 / 2 ^ 38 := by norm_num

theorem round_eq_port_iff {port : Int} (usable : IsPort port) (count : Nat) :
    Binary64.round count = .ofInt port ↔ (count : Int) = port := by
  constructor
  · intro rounded
    have near : |((count : Int) - port : Rat)| < 1 :=
      (error_of_port usable rounded).trans_lt (by norm_num)
    have apart : |(count : Int) - port| < 1 := by exact_mod_cast near
    exact sub_eq_zero.mp (Int.abs_lt_one_iff.mp apart)
  · rintro rfl
    exact round_port usable

section Spellings

variable {decimal : Decimal} {base : Nat} {chars digits : List Char} {port : Int}

theorem spells_decimal_iff (spelled : Numeral.DecimalSpelled decimal chars)
    (around : Surrounded chars text) :
    Spells text port ↔ Binary64.round decimal.value = .ofInt port := by
  rw [spells_iff (Numeral.ofText?_decimal spelled around), Numeral.toNumber, Decimal.toNumber_eq]

theorem spells_based_iff (spelled : Numeral.BasedSpelled base digits chars)
    (around : Surrounded chars text) (usable : IsPort port) :
    Spells text port ↔ (digitsValue base digits : Int) = port := by
  rw [spells_iff (Numeral.ofText?_based spelled around), ← round_eq_port_iff usable]
  rfl

theorem not_spells_blank (blank : AllBlank chars) : ¬ Spells (Text.ofChars chars) port := by
  rintro ⟨numeral, read, _⟩
  rw [Numeral.ofText?_blank blank] at read
  cases read

end Spellings

theorem load_unspelled (sets : environment.Sets field.key text)
    (unspelled : ∀ port, ¬ Spells text port) :
    ∀ config, (load system environment options).result ≠ .ok config :=
  fun config loaded => unspelled (field.of config) (load_spells sets loaded).1

theorem load_misspelt (sound : SoundElsewhere system environment options field)
    (sets : environment.Sets field.key text) (unspelled : ∀ port, ¬ Spells text port) :
    (load system environment options).result =
      .error (.config [field.key ++ " must be an integer, got '" ++ text ++ "'"]) := by
  obtain ⟨file, fromFile⟩ := sound.fileGives
  refine (load_eq_error_iff fromFile).mpr ⟨_, ?_, rfl⟩
  cases field with
  | node => exact .port ⟨sets, unspelled⟩
  | page =>
      obtain ⟨given, gives, _⟩ := sound.givesPort
      exact .webPort gives ⟨sets, unspelled⟩

/-- The port that a variable makes is the number that it writes. A decimal numeral of an integer in
range gives just that integer, and one that is accepted at all has a value next to the port; a
numeral with a base is accepted just when its value is in range, and gives it; blanks alone are
refused. -/
theorem port_is_number_written (system : FileSystem) (environment : Environment)
    (options : LoadOptions) (field : PortField) (text : Text)
    (sets : environment.Sets field.key text) :
    (∀ decimal chars, Numeral.DecimalSpelled decimal chars → Surrounded chars text →
      (SoundElsewhere system environment options field →
        ∀ port : Int, decimal.value = port → 0 ≤ port → port ≤ 65535 →
          ∃ config, (load system environment options).result = .ok config ∧
            field.of config = port) ∧
      ∀ config, (load system environment options).result = .ok config →
        0 ≤ field.of config ∧ field.of config ≤ 65535 ∧
          |decimal.value - field.of config| ≤ 1 / 2 ^ 38) ∧
    (∀ base digits chars, Numeral.BasedSpelled base digits chars → Surrounded chars text →
      (SoundElsewhere system environment options field →
        ((∃ config, (load system environment options).result = .ok config) ↔
          digitsValue base digits ≤ 65535)) ∧
      ∀ config, (load system environment options).result = .ok config →
        field.of config = digitsValue base digits) ∧
    ∀ blank, AllBlank blank → text = Text.ofChars blank →
      (∀ config, (load system environment options).result ≠ .ok config) ∧
      (SoundElsewhere system environment options field →
        (load system environment options).result =
          .error (.config [field.key ++ " must be an integer, got '" ++ text ++ "'"])) := by
  refine ⟨?_, ?_, ?_⟩
  · intro decimal chars spelled around
    refine ⟨?_, ?_⟩
    · intro sound port whole lower upper
      have kept : Spells text port := by
        rw [spells_decimal_iff spelled around, whole]
        exact round_port ⟨lower, upper⟩
      exact load_accepts sound sets kept ⟨lower, upper⟩
    · intro config loaded
      obtain ⟨spells, usable⟩ := load_spells sets loaded
      exact ⟨usable.1, usable.2,
        error_of_port usable ((spells_decimal_iff spelled around).mp spells)⟩
  · intro base digits chars spelled around
    have written : ∀ config, (load system environment options).result = .ok config →
        field.of config = digitsValue base digits := by
      intro config loaded
      obtain ⟨spells, usable⟩ := load_spells sets loaded
      exact ((spells_based_iff spelled around usable).mp spells).symm
    refine ⟨?_, written⟩
    intro sound
    constructor
    · rintro ⟨config, loaded⟩
      have usable := (load_spells sets loaded).2
      rw [written config loaded] at usable
      exact_mod_cast usable.2
    · intro small
      have usable : IsPort (digitsValue base digits) := ⟨by omega, by omega⟩
      have spells := (spells_based_iff spelled around usable).mpr rfl
      obtain ⟨config, loaded, _⟩ := load_accepts sound sets spells usable
      exact ⟨config, loaded⟩
  · rintro blank blankAll rfl
    have unspelled (port : Int) : ¬ Spells (Text.ofChars blank) port := not_spells_blank blankAll
    exact ⟨load_unspelled sets unspelled, fun sound => load_misspelt sound sets unspelled⟩

/-- Blanks beyond ASCII, a sign, leading zeros, a fraction and an exponent do not change the number
that is written. -/
theorem wide_spellings_taken :
    let loaded (text : Text) := (load brokenFirst [("RNODE_PORT", text)]).result
    (∃ config, loaded "\u2003+0808.0e1\u3000" = .ok config ∧ config.port = 8080) ∧
    (∃ config, loaded "\t0x001F90" = .ok config) ∧
    loaded "\u00A0\n" = .error (.config ["RNODE_PORT must be an integer, got '\u00A0\n'"]) := by
  intro loaded
  have sets (text : Text) (filled : text ≠ "") :
      Environment.Sets [("RNODE_PORT", text)] PortField.node.key text :=
    ⟨rfl, filled⟩
  have sound (text : Text) : SoundElsewhere brokenFirst [("RNODE_PORT", text)] {} .node := by
    refine ⟨?_, ?_⟩
    · rintro path cause ⟨_, asked | ⟨_, asked⟩⟩
      · cases asked
      · cases asked
    · rintro ⟨text, ⟨found, _⟩, _⟩
      cases found
  have decimal : Numeral.DecimalSpelled
      { whole := ['0', '8', '0', '8'], fraction := ['0'], exponent := 1 }
      ['+', '0', '8', '0', '8', '.', '0', 'e', '1'] := by
    have digits : Json.Digits ['0', '8', '0', '8', '0'] :=
      ⟨List.cons_ne_nil _ _, List.all_eq_true.mp (by decide)⟩
    have power : Json.Digits ['1'] := ⟨List.cons_ne_nil _ _, List.all_eq_true.mp (by decide)⟩
    exact .intro .plus (.pointed digits) (.unsigned (by decide) power)
  have hexadecimal : Numeral.BasedSpelled 16 ['0', '0', '1', 'F', '9', '0']
      ['0', 'x', '0', '0', '1', 'F', '9', '0'] :=
    .intro (by decide) (List.cons_ne_nil _ _) (List.all_eq_true.mp (by decide))
  have spaces : AllBlank ['\u2003'] ∧ AllBlank ['\u3000'] ∧ AllBlank ['\t'] ∧
      AllBlank ['\u00A0', '\n'] :=
    ⟨List.all_eq_true.mp (by decide), List.all_eq_true.mp (by decide),
      List.all_eq_true.mp (by decide), List.all_eq_true.mp (by decide)⟩
  have written (text : Text) (filled : text ≠ "") :=
    port_is_number_written brokenFirst [("RNODE_PORT", text)] {} .node text (sets text filled)
  refine ⟨?_, ?_, ?_⟩
  · have around : Surrounded ['+', '0', '8', '0', '8', '.', '0', 'e', '1']
        "\u2003+0808.0e1\u3000" :=
      ⟨['\u2003'], ['\u3000'], spaces.1, spaces.2.1, by decide +kernel⟩
    exact ((written _ (by decide +kernel)).1 _ _ decimal around).1 (sound _) 8080
      (by decide +kernel) (by decide) (by decide)
  · have around : Surrounded ['0', 'x', '0', '0', '1', 'F', '9', '0'] "\t0x001F90" :=
      ⟨['\t'], [], spaces.2.2.1, List.forall_mem_nil _, by decide +kernel⟩
    exact (((written _ (by decide +kernel)).2.1 _ _ _ hexadecimal around).1 (sound _)).mpr
      (by decide)
  · exact ((written _ (by decide +kernel)).2.2 ['\u00A0', '\n'] spaces.2.2.2
      (by decide +kernel)).2 (sound _)

/-- A value next to a port is taken for it. -/
example : (load brokenFirst [("RNODE_PORT", "65535.000000000003")]).result =
    .ok { host := "127.0.0.1", port := 65535, webPort := 8888 } := by
  decide +kernel

end Config

end NodeConsole
