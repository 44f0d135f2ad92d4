import Mathlib.Control.Monad.Basic
import NodeConsole.Proofs.Sources

/-!
Where the fields of a loaded configuration come from. The environment goes before the file and the
file before the standard values, for every field by itself. The file is the one that is asked for
or, if none is, the first that exists under one of the usual names; no other file is looked at.
-/

namespace NodeConsole

namespace Config

variable {system : FileSystem} {environment : Environment} {options : LoadOptions} {path : Text}

/-- The settings that a file gives: those that it holds, or none. A file that is only found and has
a fault gives none. -/
inductive FileGives (system : FileSystem) (environment : Environment) (options : LoadOptions) :
    Settings → Prop
  | asked {path : Text} {settings : Settings} (asked : Asked options environment path)
      (holds : Holds system (located system options path) settings) :
      FileGives system environment options settings
  | found {name : Text} {settings : Settings} (unasked : ∀ path, ¬ Asked options environment path)
      (found : Found system options name)
      (holds : Holds system (located system options name) settings) :
      FileGives system environment options settings
  | skipped {name : Text} {cause : Failure} (unasked : ∀ path, ¬ Asked options environment path)
      (found : Found system options name)
      (fault : Fault system (located system options name) cause) :
      FileGives system environment options {}
  | nowhere (unasked : ∀ path, ¬ Asked options environment path)
      (absent : ∀ name ∈ fileNames, system.entry? (located system options name) = none) :
      FileGives system environment options {}

theorem fileSettings_asked (asked : Asked options environment path) :
    fileSettings system environment options =
      ([], loadFile system (located system options path)) := by
  simp only [fileSettings, askedPath?_eq_some_iff.mpr asked]
  rfl

theorem fileSettings_found {name : Text} (unasked : ∀ path, ¬ Asked options environment path)
    (found : Found system options name) :
    fileSettings system environment options =
      match loadFile system (located system options name) with
      | .ok settings => ([], .ok settings)
      | .error cause => ([skipWarning (located system options name) cause], .ok {}) := by
  have first : findFile? system (options.directory.getD system.workingDirectory) =
      some (located system options name) := by
    rw [findFile?_eq, find_eq_some_iff.mpr found]
    rfl
  cases loaded : loadFile system (located system options name) with
  | ok settings =>
      simp only [fileSettings, askedPath?_eq_none_iff.mpr unasked, first, loaded]
  | error cause =>
      simp only [fileSettings, askedPath?_eq_none_iff.mpr unasked, first, loaded]

theorem fileSettings_nowhere (unasked : ∀ path, ¬ Asked options environment path)
    (absent : ∀ name ∈ fileNames, system.entry? (located system options name) = none) :
    fileSettings system environment options = ([], .ok {}) := by
  simp only [fileSettings, askedPath?_eq_none_iff.mpr unasked, findFile?_eq,
    find_eq_none_iff.mpr absent, Option.map_none]

theorem file_cases (system : FileSystem) (environment : Environment) (options : LoadOptions) :
    (∃ path, Asked options environment path) ∨
      (∀ path, ¬ Asked options environment path) ∧
        ((∃ name, Found system options name) ∨
          ∀ name ∈ fileNames, system.entry? (located system options name) = none) := by
  cases asked : askedPath? options environment with
  | some path => exact .inl ⟨path, askedPath?_eq_some_iff.mp asked⟩
  | none =>
      refine .inr ⟨askedPath?_eq_none_iff.mp asked, ?_⟩
      cases found : fileNames.find? fun name =>
          (system.entry? (located system options name)).isSome with
      | some name => exact .inl ⟨name, find_eq_some_iff.mp found⟩
      | none => exact .inr (find_eq_none_iff.mp found)

theorem fileSettings_eq_ok_iff {settings : Settings} :
    (fileSettings system environment options).2 = .ok settings ↔
      FileGives system environment options settings := by
  constructor
  · intro given
    rcases file_cases system environment options with
      ⟨path, asked⟩ | ⟨unasked, ⟨name, found⟩ | absent⟩
    · rw [fileSettings_asked asked] at given
      exact .asked asked (loadFile_eq_ok_iff.mp given)
    · rw [fileSettings_found unasked found] at given
      cases loaded : loadFile system (located system options name) with
      | ok held =>
          rw [loaded] at given
          cases given
          exact .found unasked found (loadFile_eq_ok_iff.mp loaded)
      | error cause =>
          rw [loaded] at given
          cases given
          exact .skipped unasked found (loadFile_eq_error_iff.mp loaded)
    · rw [fileSettings_nowhere unasked absent] at given
      cases given
      exact .nowhere unasked absent
  · intro gives
    cases gives with
    | asked asked holds => rw [fileSettings_asked asked, loadFile_eq_ok_iff.mpr holds]
    | found unasked found holds =>
        rw [fileSettings_found unasked found, loadFile_eq_ok_iff.mpr holds]
    | skipped unasked found fault =>
        rw [fileSettings_found unasked found, loadFile_eq_error_iff.mpr fault]
    | nowhere unasked absent => rw [fileSettings_nowhere unasked absent]

theorem fileSettings_eq_error_iff {cause : Failure} :
    (fileSettings system environment options).2 = .error cause ↔
      ∃ path, Asked options environment path ∧
        Fault system (located system options path) cause := by
  constructor
  · intro failed
    rcases file_cases system environment options with
      ⟨path, asked⟩ | ⟨unasked, ⟨name, found⟩ | absent⟩
    · rw [fileSettings_asked asked] at failed
      exact ⟨path, asked, loadFile_eq_error_iff.mp failed⟩
    · rw [fileSettings_found unasked found] at failed
      split at failed <;> cases failed
    · rw [fileSettings_nowhere unasked absent] at failed
      cases failed
  · rintro ⟨path, asked, fault⟩
    rw [fileSettings_asked asked, loadFile_eq_error_iff.mpr fault]

theorem validated_eq_ok_iff {config result : Config} :
    validated config = .ok result ↔ result = config ∧ config.Valid := by
  rw [validated, ← validate_eq_nil_iff]
  cases validate config.toValue <;> simp [eq_comm]

/-- The value of a field: that of the environment, else that of the file, else the standard one. -/
inductive Layered {α : Type} (environment file : Option α) (standard : α) : α → Prop
  | environment {value : α} (given : environment = some value) :
      Layered environment file standard value
  | file {value : α} (ungiven : environment = none) (given : file = some value) :
      Layered environment file standard value
  | standard (ungiven : environment = none) (unfiled : file = none) :
      Layered environment file standard standard

theorem layered_iff {α : Type} {environment file : Option α} {standard value : α} :
    Layered environment file standard value ↔
      value = environment.getD (file.getD standard) := by
  constructor
  · intro layered
    cases layered with
    | environment given => rw [given]; rfl
    | file ungiven given => rw [ungiven, given]; rfl
    | standard ungiven unfiled => rw [ungiven, unfiled]; rfl
  · rintro rfl
    cases environment with
    | some value => exact .environment rfl
    | none =>
        cases file with
        | some value => exact .file rfl rfl
        | none => exact .standard rfl rfl

theorem load_eq_ok_iff {config : Config} :
    (load system environment options).result = .ok config ↔
      ∃ file given, FileGives system environment options file ∧ environment.Gives given ∧
        config = (standard.override file).override given ∧ config.Valid := by
  simp only [← fileSettings_eq_ok_iff, ← Environment.settings_eq_ok_iff, load]
  cases (fileSettings system environment options).2 with
  | error cause => simp [bind, Except.bind]
  | ok file =>
      cases environment.settings with
      | error cause => simp [bind, Except.bind]
      | ok given =>
          simp only [bind, Except.bind, validated_eq_ok_iff, Except.ok.injEq]
          constructor
          · rintro ⟨rfl, valid⟩
            exact ⟨file, given, rfl, rfl, rfl, valid⟩
          · rintro ⟨_, _, rfl, rfl, rfl, valid⟩
            exact ⟨rfl, valid⟩

/-- The paths that are looked at: the one that is asked for, or else the usual ones up to the first
under which something exists. -/
inductive Consulted (system : FileSystem) (environment : Environment) (options : LoadOptions) :
    Text → Prop
  | asked {path : Text} (asked : Asked options environment path) :
      Consulted system environment options (located system options path)
  | usual {name : Text} (unasked : ∀ path, ¬ Asked options environment path)
      (reached : Reached system options name) :
      Consulted system environment options (located system options name)

theorem find?_agree {α : Type} {first second : α → Bool} (list : List α)
    (agree : ∀ before value after, list = before ++ value :: after →
      (∀ earlier ∈ before, first earlier = false) → second value = first value) :
    list.find? second = list.find? first := by
  induction list with
  | nil => rfl
  | cons value rest ih =>
      have same := agree [] value rest rfl nofun
      rw [List.find?_cons, List.find?_cons, same]
      cases holds : first value with
      | true => rfl
      | false =>
          refine ih ?_
          intro before later after split earlier
          refine agree (value :: before) later after (by rw [split]; rfl) ?_
          intro other listed
          rcases List.mem_cons.mp listed with rfl | listed
          · exact holds
          · exact earlier other listed

def withEntries (system : FileSystem) (elsewhere : Text → Option Entry) : FileSystem :=
  { system with entry? := elsewhere }

theorem loadFile_agree {elsewhere : Text → Option Entry}
    (same : elsewhere path = system.entry? path) :
    loadFile (withEntries system elsewhere) path = loadFile system path := by
  have read : (withEntries system elsewhere).read path = system.read path := by
    simp only [FileSystem.read, withEntries, same]
  have document : (withEntries system elsewhere).document path = system.document path := by
    simp only [FileSystem.document, read]
    rfl
  have present : (withEntries system elsewhere).exists? path = system.exists? path := by
    simp only [FileSystem.exists?, withEntries, same]
  rw [loadFile, loadFile, document, present]

theorem load_agree {elsewhere : Text → Option Entry}
    (agree : ∀ path, Consulted system environment options path →
      elsewhere path = system.entry? path) :
    load (withEntries system elsewhere) environment options = load system environment options := by
  have settings : fileSettings (withEntries system elsewhere) environment options =
      fileSettings system environment options := by
    rcases file_cases system environment options with ⟨path, asked⟩ | ⟨unasked, _⟩
    · rw [fileSettings_asked asked, fileSettings_asked asked]
      exact congrArg _ (loadFile_agree (agree _ (.asked asked)))
    · have usual (name : Text) (reached : Reached system options name) :
          elsewhere (located system options name) = system.entry? (located system options name) :=
        agree _ (.usual unasked reached)
      have found :
          (fileNames.find? fun name => (elsewhere (located system options name)).isSome) =
          fileNames.find? fun name => (system.entry? (located system options name)).isSome := by
        apply find?_agree
        intro before name after split absent
        rw [usual name ⟨before, after, split, fun earlier listed => by
          simpa using absent earlier listed⟩]
      cases first : fileNames.find? fun name =>
          (system.entry? (located system options name)).isSome with
      | some name =>
          have here := find_eq_some_iff.mp first
          have there : Found (withEntries system elsewhere) options name :=
            find_eq_some_iff.mp (found.trans first)
          have same : loadFile (withEntries system elsewhere) (located system options name) =
              loadFile system (located system options name) :=
            loadFile_agree (agree _ (.usual unasked here.reached))
          rw [fileSettings_found unasked here, fileSettings_found unasked there]
          exact same ▸ rfl
      | none =>
          rw [fileSettings_nowhere unasked (find_eq_none_iff.mp first),
            fileSettings_nowhere unasked (find_eq_none_iff.mp (found.trans first))]
  simp only [load, settings]

/-- A configuration is loaded just when it is valid and each field is the one of the highest source
that has it; nothing else in the file system matters than the paths that are looked at; and these
lead where they lead from the directory, which itself is seen from the working directory. -/
theorem load_follows_layers (system : FileSystem) (environment : Environment)
    (options : LoadOptions) :
    (∀ config, (load system environment options).result = .ok config ↔
      config.Valid ∧ ∃ given file, environment.Gives given ∧
        FileGives system environment options file ∧
        Layered given.host file.host "127.0.0.1" config.host ∧
        Layered given.port file.port 50000 config.port ∧
        Layered given.webPort file.webPort 8888 config.webPort) ∧
    (∀ elsewhere : Text → Option Entry,
      (∀ path, Consulted system environment options path → elsewhere path = system.entry? path) →
      load (withEntries system elsewhere) environment options = load system environment options) ∧
    ∀ path text, located system options path = text ↔
      Path.Resolves system.workingDirectory
        [options.directory.getD system.workingDirectory, path] text := by
  refine ⟨?_, fun elsewhere => load_agree, fun path text => located_iff⟩
  intro config
  have fields (given file : Settings) :
      config = (standard.override file).override given ↔
        Layered given.host file.host "127.0.0.1" config.host ∧
          Layered given.port file.port 50000 config.port ∧
          Layered given.webPort file.webPort 8888 config.webPort := by
    obtain ⟨host, port, webPort⟩ := config
    simp only [layered_iff, Config.override, Config.mk.injEq]
    rfl
  rw [load_eq_ok_iff]
  constructor
  · rintro ⟨file, given, fromFile, fromEnvironment, same, valid⟩
    exact ⟨valid, given, file, fromEnvironment, fromFile, (fields given file).mp same⟩
  · rintro ⟨valid, given, file, fromEnvironment, fromFile, layered⟩
    exact ⟨file, given, fromFile, fromEnvironment, (fields given file).mpr layered, valid⟩

/-- A directory with a broken file in front of a sound one. -/
def brokenFirst : FileSystem :=
  (FileTree.directory [("work", .directory [
    ("rnode.config.json", .file (Utf8.ofString "\x7b")),
    (".rnoderc", .file (Utf8.ofString "\x7b\"host\": \"hidden\"\x7d"))])]).toSystem "/work"
      fun _ => "Expected property name or '\x7d' in JSON at position 1"

example : (load brokenFirst [("RNODE_PORT", " 0x10")]).result =
    .ok { host := "127.0.0.1", port := 16, webPort := 8888 } := by
  decide +kernel

end Config

end NodeConsole
