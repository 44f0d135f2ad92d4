import NodeConsole.Proofs.Precedence

/-!
When no configuration is loaded, and what is reported then. A file that is asked for and has a fault
is reported whatever the environment holds. Apart from that the environment alone decides: settings
from a file are never at fault, so a file that is only found costs no more than a warning.
-/

namespace NodeConsole

namespace Environment

variable {environment : Environment} {name : String}

/-- A variable is set and spells no port: no integer, or one that is out of range. -/
def BadPort (environment : Environment) (name : String) : Prop :=
  ∃ text, environment.Sets name text ∧ ∀ port, Spells text port → ¬ Config.IsPort port

def rangeMessages (field : String) (given : Option Int) : List Text :=
  (given.map (Config.rangeMessages field)).getD []

/-- What is said about an environment with a bad port. A port that is misspelt is reported alone,
the node's before the one of the page; ports that are out of range are reported together. -/
inductive Faults (environment : Environment) : List Text → Prop
  | port {text : Text} (misspelt : environment.Misspells "RNODE_PORT" text) :
      Faults environment ["RNODE_PORT must be an integer, got '" ++ text ++ "'"]
  | webPort {port : Option Int} {text : Text} (given : environment.GivesPort "RNODE_PORT" port)
      (misspelt : environment.Misspells "RNODE_WEB_PORT" text) :
      Faults environment ["RNODE_WEB_PORT must be an integer, got '" ++ text ++ "'"]
  | range {port webPort : Option Int} (given : environment.GivesPort "RNODE_PORT" port)
      (webGiven : environment.GivesPort "RNODE_WEB_PORT" webPort)
      (outside : (¬ ∀ value ∈ port, Config.IsPort value) ∨
        ¬ ∀ value ∈ webPort, Config.IsPort value) :
      Faults environment (rangeMessages "port" port ++ rangeMessages "webPort" webPort)

theorem rangeMessages_eq_nil_iff {field : String} {given : Option Int} :
    rangeMessages field given = [] ↔ ∀ value ∈ given, Config.IsPort value := by
  cases given with
  | none => simp [rangeMessages]
  | some port => simp [rangeMessages, Config.rangeMessages_eq_nil_iff]

theorem misspells_or_gives (environment : Environment) (name : String) :
    (∃ text, environment.Misspells name text) ∨ ∃ given, environment.GivesPort name given := by
  cases read : environment.port? name with
  | ok given => exact .inr ⟨given, port?_eq_ok_iff.mp read⟩
  | error cause =>
      obtain ⟨text, misspelt, _⟩ := port?_eq_error_iff.mp read
      exact .inl ⟨text, misspelt⟩

theorem Misspells.bad {text : Text} (misspelt : environment.Misspells name text) :
    environment.BadPort name :=
  ⟨text, misspelt.1, fun port spells => (misspelt.2 port spells).elim⟩

theorem Spells.unique {text : Text} {port other : Int} (spells : Spells text port)
    (also : Spells text other) : other = port := by
  have first : Environment.port "" text = .ok port := port_eq_ok_iff.mpr spells
  have second : Environment.port "" text = .ok other := port_eq_ok_iff.mpr also
  exact Except.ok.inj (second.symm.trans first)

theorem GivesPort.bad_iff {given : Option Int} (gives : environment.GivesPort name given) :
    environment.BadPort name ↔ ¬ ∀ value ∈ given, Config.IsPort value := by
  cases gives with
  | unset unset =>
      constructor
      · rintro ⟨text, sets, _⟩
        exact (unset text sets).elim
      · intro outside
        exact (outside nofun).elim
  | @spelled text port sets spells =>
      constructor
      · rintro ⟨other, also, outside⟩ usable
        obtain rfl := sets.unique also
        exact outside port spells (usable port rfl)
      · intro outside
        refine ⟨text, sets, ?_⟩
        rintro other also usable
        obtain rfl := spells.unique also
        refine outside ?_
        rintro value ⟨⟩
        exact usable

theorem Gives.filled {given : Settings} (gives : environment.Gives given) :
    given.host ≠ some "" :=
  fun empty => ((gives.host "").mp empty).2 rfl

theorem faults_iff_bad :
    (∃ messages, environment.Faults messages) ↔
      environment.BadPort "RNODE_PORT" ∨ environment.BadPort "RNODE_WEB_PORT" := by
  constructor
  · rintro ⟨messages, faults⟩
    cases faults with
    | port misspelt => exact .inl misspelt.bad
    | webPort _ misspelt => exact .inr misspelt.bad
    | range given webGiven outside =>
        rw [given.bad_iff, webGiven.bad_iff]
        exact outside
  · intro bad
    rcases environment.misspells_or_gives "RNODE_PORT" with ⟨text, misspelt⟩ | ⟨port, given⟩
    · exact ⟨_, .port misspelt⟩
    · rcases environment.misspells_or_gives "RNODE_WEB_PORT" with
        ⟨text, misspelt⟩ | ⟨webPort, webGiven⟩
      · exact ⟨_, .webPort given misspelt⟩
      · rw [given.bad_iff, webGiven.bad_iff] at bad
        exact ⟨_, .range given webGiven bad⟩

end Environment

namespace Config

variable {system : FileSystem} {environment : Environment} {options : LoadOptions} {path : Text}
variable {file given : Settings}

theorem FileGives.valid (gives : FileGives system environment options file) : file.Valid := by
  have held {path : Text} {settings : Settings} (holds : Holds system path settings) :
      settings.Valid := by
    obtain ⟨_, _, _, _, written⟩ := holds
    exact written.valid
  have bare : Settings.Valid {} := ⟨nofun, nofun, nofun⟩
  cases gives with
  | asked _ holds => exact held holds
  | found _ _ holds => exact held holds
  | skipped => exact bare
  | nowhere => exact bare

theorem rangeMessages_getD {field : String} {port : Int} (usable : IsPort port)
    (given : Option Int) :
    rangeMessages field (given.getD port) = Environment.rangeMessages field given := by
  cases given with
  | none => exact rangeMessages_eq_nil_iff.mpr usable
  | some port => rfl

theorem validate_override {config : Config} (valid : config.Valid)
    (filled : given.host ≠ some "") :
    validate (config.override given).toValue =
      Environment.rangeMessages "port" given.port ++
        Environment.rangeMessages "webPort" given.webPort := by
  have host : (config.override given).host ≠ "" := by
    obtain ⟨host, _, _⟩ := given
    cases host with
    | none => exact valid.host
    | some text => exact fun empty => filled (congrArg some empty)
  rw [validate_toValue, if_neg host, List.nil_append, override,
    rangeMessages_getD valid.port, rangeMessages_getD valid.webPort]

theorem validated_eq_error_iff {config : Config} {cause : Failure} :
    validated config = .error cause ↔
      validate config.toValue ≠ [] ∧ cause = .config (validate config.toValue) := by
  rw [validated]
  cases validate config.toValue <;> simp [eq_comm]

theorem validated_override_eq_error_iff {config : Config} {cause : Failure} (valid : config.Valid)
    (filled : given.host ≠ some "") :
    validated (config.override given) = .error cause ↔
      ((¬ ∀ value ∈ given.port, IsPort value) ∨ ¬ ∀ value ∈ given.webPort, IsPort value) ∧
        cause = .config (Environment.rangeMessages "port" given.port ++
          Environment.rangeMessages "webPort" given.webPort) := by
  rw [validated_eq_error_iff, validate_override valid filled, ne_eq, List.append_eq_nil_iff,
    Environment.rangeMessages_eq_nil_iff, Environment.rangeMessages_eq_nil_iff,
    Classical.not_and_iff_not_or_not]

theorem load_of_file (fromFile : FileGives system environment options file) :
    (load system environment options).result =
      environment.settings >>= fun given =>
        validated ((standard.override file).override given) := by
  simp only [load, fileSettings_eq_ok_iff.mpr fromFile]
  rfl

/-- Once the file is settled, a load fails over the environment alone. -/
theorem load_eq_error_iff {cause : Failure}
    (fromFile : FileGives system environment options file) :
    (load system environment options).result = .error cause ↔
      ∃ messages, environment.Faults messages ∧ cause = .config messages := by
  -- whatever the file gives is in range, so that only the environment is left to blame
  have valid := standard_valid.override fromFile.valid
  rw [load_of_file fromFile]
  constructor
  · intro failed
    cases read : environment.settings with
    | error first =>
        rw [read] at failed
        cases failed
        rcases Environment.settings_eq_error_iff.mp read with
          ⟨text, misspelt, rfl⟩ | ⟨⟨port, gives⟩, text, misspelt, rfl⟩
        · exact ⟨_, .port misspelt, rfl⟩
        · exact ⟨_, .webPort gives misspelt, rfl⟩
    | ok given =>
        have gives := Environment.settings_eq_ok_iff.mp read
        rw [read] at failed
        obtain ⟨outside, rfl⟩ := (validated_override_eq_error_iff valid gives.filled).mp failed
        exact ⟨_, .range gives.port gives.webPort outside, rfl⟩
  · rintro ⟨messages, faults, rfl⟩
    cases faults with
    | port misspelt =>
        rw [Environment.settings_eq_error_iff.mpr (.inl ⟨_, misspelt, rfl⟩)]
        rfl
    | webPort given misspelt =>
        rw [Environment.settings_eq_error_iff.mpr (.inr ⟨⟨_, given⟩, _, misspelt, rfl⟩)]
        rfl
    | @range port webPort given webGiven outside =>
        have gives : environment.Gives { host := environment.set? "RNODE_HOST", port, webPort } :=
          ⟨fun _ => Environment.set?_eq_some_iff, given, webGiven⟩
        rw [Environment.settings_eq_ok_iff.mpr gives]
        exact (validated_override_eq_error_iff valid gives.filled).mpr ⟨outside, rfl⟩

theorem holds_of_no_fault (sound : ∀ cause, ¬ Fault system path cause) :
    ∃ settings, Holds system path settings := by
  cases loaded : loadFile system path with
  | ok settings => exact ⟨settings, loadFile_eq_ok_iff.mp loaded⟩
  | error cause => exact (sound cause (loadFile_eq_error_iff.mp loaded)).elim

/-- A load that fails just when the environment has a bad port, with what is said about that. -/
structure FailsByEnvironment (environment : Environment) (result : Except Failure Config) :
    Prop where
  fails_iff : (∃ cause, result = .error cause) ↔
    environment.BadPort "RNODE_PORT" ∨ environment.BadPort "RNODE_WEB_PORT"
  cause_iff : ∀ cause, result = .error cause ↔
    ∃ messages, environment.Faults messages ∧ cause = .config messages

theorem FileGives.failsByEnvironment (fromFile : FileGives system environment options file) :
    FailsByEnvironment environment (load system environment options).result := by
  refine ⟨?_, fun _ => load_eq_error_iff fromFile⟩
  rw [← Environment.faults_iff_bad]
  constructor
  · rintro ⟨cause, failed⟩
    obtain ⟨messages, faults, _⟩ := (load_eq_error_iff fromFile).mp failed
    exact ⟨messages, faults⟩
  · rintro ⟨messages, faults⟩
    exact ⟨_, (load_eq_error_iff fromFile).mpr ⟨messages, faults, rfl⟩⟩

def withoutFiles (system : FileSystem) : FileSystem :=
  { system with entry? := fun _ => none }

theorem fileGives_of_unasked (system : FileSystem)
    (unasked : ∀ path, ¬ Asked options environment path) :
    ∃ file, FileGives system environment options file := by
  cases given : (fileSettings system environment options).2 with
  | ok file => exact ⟨file, fileSettings_eq_ok_iff.mp given⟩
  | error cause =>
      obtain ⟨path, asked, _⟩ := fileSettings_eq_error_iff.mp given
      exact (unasked path asked).elim

theorem load_skipped {name : Text} {cause : Failure}
    (unasked : ∀ path, ¬ Asked options environment path) (found : Found system options name)
    (fault : Fault system (located system options name) cause) :
    load system environment options = {
      warnings := [skipWarning (located system options name) cause]
      result := (load (withoutFiles system) environment options).result } := by
  have bare : fileSettings (withoutFiles system) environment options = ([], .ok {}) :=
    fileSettings_nowhere unasked fun _ _ => rfl
  simp only [load, bare, fileSettings_found unasked found, loadFile_eq_error_iff.mpr fault]

/-- Without a path that is asked for, a load fails over the environment alone, and a file that is
found and broken makes a warning and no other difference. With such a path, a fault of its file is
what is reported. -/
theorem load_fails_exactly (system : FileSystem) (environment : Environment)
    (options : LoadOptions) :
    ((∀ path, ¬ Asked options environment path) →
      FailsByEnvironment environment (load system environment options).result ∧
      (∀ name, Found system options name →
        (∀ cause, Fault system (located system options name) cause →
          load system environment options = {
            warnings := [{
              level := .warning
              text := "Warning: Failed to load config from " ++ located system options name ++ ":"
              cause := some cause }]
            result := (load (withoutFiles system) environment options).result }) ∧
        ((∀ cause, ¬ Fault system (located system options name) cause) →
          (load system environment options).warnings = [])) ∧
      ((∀ name, ¬ Found system options name) →
        (load system environment options).warnings = [])) ∧
    ∀ path, Asked options environment path →
      (load system environment options).warnings = [] ∧
      (∀ cause, Fault system (located system options path) cause →
        (load system environment options).result = .error cause) ∧
      ((∀ cause, ¬ Fault system (located system options path) cause) →
        FailsByEnvironment environment (load system environment options).result) := by
  refine ⟨?_, ?_⟩
  · intro unasked
    obtain ⟨file, fromFile⟩ := fileGives_of_unasked system unasked
    refine ⟨fromFile.failsByEnvironment, ?_, ?_⟩
    · intro name found
      refine ⟨fun cause fault => load_skipped unasked found fault, ?_⟩
      intro sound
      obtain ⟨settings, holds⟩ := holds_of_no_fault sound
      simp only [load, fileSettings_found unasked found, loadFile_eq_ok_iff.mpr holds]
    · intro unfound
      rcases file_cases system environment options with
        ⟨path, asked⟩ | ⟨_, ⟨name, found⟩ | absent⟩
      · exact (unasked path asked).elim
      · exact (unfound name found).elim
      · simp only [load, fileSettings_nowhere unasked absent]
  · intro path asked
    have consulted : fileSettings system environment options =
        ([], loadFile system (located system options path)) := fileSettings_asked asked
    refine ⟨?_, ?_, ?_⟩
    · simp only [load, consulted]
    · intro cause fault
      simp only [load, consulted, loadFile_eq_error_iff.mpr fault]
      rfl
    · intro sound
      obtain ⟨settings, holds⟩ := holds_of_no_fault sound
      exact (FileGives.asked asked holds).failsByEnvironment

example : (load brokenFirst [("RNODE_PORT", "70000"), ("RNODE_WEB_PORT", "-1")]).result =
    .error (.config [
      "Invalid port: Number must be less than or equal to 65535",
      "Invalid webPort: Number must be greater than or equal to 0"]) := by
  decide +kernel

end Config

end NodeConsole
