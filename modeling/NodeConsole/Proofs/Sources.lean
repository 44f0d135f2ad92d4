import NodeConsole.Config.Load
import NodeConsole.Proofs.Paths
import NodeConsole.Proofs.Validity

/-!
What the sources of a configuration have to say. The variables of the environment give settings or
misspell a port; the file under a path holds settings or has a fault; and the file that counts is
the one that is asked for, or the first that exists under one of the usual names.
-/

namespace NodeConsole

namespace Environment

variable {environment : Environment} {name : String}

def Sets (environment : Environment) (name : String) (text : Text) : Prop :=
  environment.get? name = some text ∧ text ≠ ""

/-- A text is a numeral of an integer, once its value is rounded to the format of numbers. -/
def Spells (text : Text) (port : Int) : Prop :=
  ∃ numeral, Numeral.ofText? text = some numeral ∧ numeral.toNumber = .ofInt port

/-- What the environment gives for a port: nothing, or the integer that a variable spells. -/
inductive GivesPort (environment : Environment) (name : String) : Option Int → Prop
  | unset (unset : ∀ text, ¬ environment.Sets name text) : GivesPort environment name none
  | spelled {text : Text} {port : Int} (sets : environment.Sets name text)
      (spells : Spells text port) : GivesPort environment name (some port)

structure Gives (environment : Environment) (given : Settings) : Prop where
  host : ∀ text, given.host = some text ↔ environment.Sets "RNODE_HOST" text
  port : environment.GivesPort "RNODE_PORT" given.port
  webPort : environment.GivesPort "RNODE_WEB_PORT" given.webPort

theorem set?_eq_some_iff {text : Text} :
    environment.set? name = some text ↔ environment.Sets name text := by
  simp [set?, Sets, Option.filter_eq_some_iff]

theorem set?_eq_none_iff : environment.set? name = none ↔ ∀ text, ¬ environment.Sets name text := by
  simp only [← set?_eq_some_iff, Option.eq_none_iff_forall_ne_some, ne_eq]

theorem port_eq_ok_iff {text : Text} {port : Int} :
    Environment.port name text = .ok port ↔ Spells text port := by
  have spells : Spells text port ↔
      ((Numeral.ofText? text).bind fun numeral => numeral.toNumber.toInt?) = some port := by
    simp only [Spells, Option.bind_eq_some_iff, Number.toInt?_eq_some_iff]
  rw [spells, Environment.port]
  split
  next read => simp [read]
  next read => simp [read]

def unspelledMessage (name : String) (text : Text) : Text :=
  name ++ " must be an integer, got '" ++ text ++ "'"

theorem port_eq_error_iff {text : Text} {cause : Failure} :
    Environment.port name text = .error cause ↔
      (∀ port, ¬ Spells text port) ∧ cause = .config [unspelledMessage name text] := by
  have refused (cause : Failure) (failed : Environment.port name text = .error cause) :
      cause = .config [unspelledMessage name text] := by
    rw [Environment.port] at failed
    split at failed
    · cases failed
    · exact (Except.error.inj failed).symm
  have spelt (port : Int) : Spells text port ↔ Environment.port name text = .ok port :=
    port_eq_ok_iff.symm
  simp only [spelt]
  cases read : Environment.port name text with
  | ok port => simp
  | error other =>
      obtain rfl := refused other read
      simp [eq_comm]

theorem port?_unset (unset : ∀ text, ¬ environment.Sets name text) :
    environment.port? name = .ok none := by
  rw [port?, set?_eq_none_iff.mpr unset]

theorem port?_set {text : Text} (sets : environment.Sets name text) :
    environment.port? name = (port name text).map some := by
  rw [port?, set?_eq_some_iff.mpr sets]

theorem Sets.unique {text other : Text} (sets : environment.Sets name text)
    (also : environment.Sets name other) : other = text :=
  Option.some.inj (also.1.symm.trans sets.1)

theorem set_or_unset (environment : Environment) (name : String) :
    (∃ text, environment.Sets name text) ∨ ∀ text, ¬ environment.Sets name text := by
  cases set : environment.set? name with
  | none => exact .inr (set?_eq_none_iff.mp set)
  | some text => exact .inl ⟨text, set?_eq_some_iff.mp set⟩

theorem port?_eq_ok_iff {given : Option Int} :
    environment.port? name = .ok given ↔ environment.GivesPort name given := by
  constructor
  · intro read
    rcases environment.set_or_unset name with ⟨text, sets⟩ | unset
    · rw [port?_set sets] at read
      cases spelled : port name text with
      | error cause => rw [spelled] at read; cases read
      | ok value =>
          rw [spelled] at read
          cases read
          exact .spelled sets (port_eq_ok_iff.mp spelled)
    · rw [port?_unset unset] at read
      cases read
      exact .unset unset
  · intro gives
    cases gives with
    | unset unset => exact port?_unset unset
    | spelled sets spells =>
        rw [port?_set sets, port_eq_ok_iff.mpr spells]
        rfl

def Misspells (environment : Environment) (name : String) (text : Text) : Prop :=
  environment.Sets name text ∧ ∀ port, ¬ Spells text port

theorem port?_eq_error_iff {cause : Failure} :
    environment.port? name = .error cause ↔
      ∃ text, environment.Misspells name text ∧ cause = .config [unspelledMessage name text] := by
  constructor
  · intro failed
    rcases environment.set_or_unset name with ⟨text, sets⟩ | unset
    · rw [port?_set sets] at failed
      cases spelled : port name text with
      | ok value => rw [spelled] at failed; cases failed
      | error other =>
          rw [spelled] at failed
          cases failed
          obtain ⟨unspelled, rfl⟩ := port_eq_error_iff.mp spelled
          exact ⟨text, ⟨sets, unspelled⟩, rfl⟩
    · rw [port?_unset unset] at failed
      cases failed
  · rintro ⟨text, ⟨sets, unspelled⟩, rfl⟩
    rw [port?_set sets, port_eq_error_iff.mpr ⟨unspelled, rfl⟩]
    rfl

theorem settings_eq_ok_iff {given : Settings} :
    environment.settings = .ok given ↔ environment.Gives given := by
  obtain ⟨host, port, webPort⟩ := given
  have sameHost : host = environment.set? "RNODE_HOST" ↔
      ∀ text, host = some text ↔ environment.Sets "RNODE_HOST" text := by
    simp only [← set?_eq_some_iff]
    exact Option.ext_iff
  constructor
  · intro read
    rw [settings] at read
    cases portRead : environment.port? "RNODE_PORT" with
    | error cause => rw [portRead] at read; cases read
    | ok first =>
        cases webPortRead : environment.port? "RNODE_WEB_PORT" with
        | error cause => rw [portRead, webPortRead] at read; cases read
        | ok second =>
            rw [portRead, webPortRead] at read
            cases read
            exact ⟨sameHost.mp rfl, port?_eq_ok_iff.mp portRead, port?_eq_ok_iff.mp webPortRead⟩
  · rintro ⟨hostSet, portGiven, webPortGiven⟩
    rw [settings, port?_eq_ok_iff.mpr portGiven, port?_eq_ok_iff.mpr webPortGiven,
      sameHost.mpr hostSet]
    rfl

/-- Of two variables that misspell a port, the one of the node's port is the one reported. -/
theorem settings_eq_error_iff {cause : Failure} :
    environment.settings = .error cause ↔
      (∃ text, environment.Misspells "RNODE_PORT" text ∧
        cause = .config [unspelledMessage "RNODE_PORT" text]) ∨
      (∃ port, environment.GivesPort "RNODE_PORT" port) ∧
        ∃ text, environment.Misspells "RNODE_WEB_PORT" text ∧
          cause = .config [unspelledMessage "RNODE_WEB_PORT" text] := by
  simp only [← port?_eq_error_iff, ← port?_eq_ok_iff]
  rw [settings]
  cases environment.port? "RNODE_PORT" with
  | error first => simp [bind, Except.bind]
  | ok port =>
      cases environment.port? "RNODE_WEB_PORT" with
      | error second => simp [bind, Except.bind]
      | ok webPort => simp [bind, Except.bind, pure, Except.pure]

end Environment

namespace FileSystem

open Json (Value)

def Denotes (system : FileSystem) (path : Text) (value : Value) : Prop :=
  ∃ content, system.entry? path = some (.file content) ∧
    Value.ofText? (Utf8.toStringLossy content) = some value

inductive Unread (system : FileSystem) (path : Text) : Failure → Prop
  | absent (nothing : system.entry? path = none) : Unread system path (.absentFile path)
  | directory (leads : system.entry? path = some .directory) : Unread system path .directoryRead
  | unreadable {message : Text} (leads : system.entry? path = some (.unreadable message)) :
      Unread system path (.foreign message)
  | malformed {content : List UInt8} (leads : system.entry? path = some (.file content))
      (unread : Value.ofText? (Utf8.toStringLossy content) = none) :
      Unread system path (.malformedJson (system.complaint (Utf8.toStringLossy content)))

variable {system : FileSystem} {path : Text}

theorem document_outcome (system : FileSystem) (path : Text) :
    match system.document path with
    | .ok value => system.Denotes path value
    | .error cause => system.Unread path cause := by
  simp only [document, read, bind, Except.bind]
  cases leads : system.entry? path with
  | none => exact .absent leads
  | some entry =>
      cases entry with
      | directory => exact .directory leads
      | unreadable message => exact .unreadable leads
      | file content =>
          cases unread : Value.ofText? (Utf8.toStringLossy content) with
          | none => simpa only [unread] using Unread.malformed leads unread
          | some value => simpa only [unread] using ⟨content, leads, unread⟩

theorem document_eq_ok_iff {value : Value} :
    system.document path = .ok value ↔ system.Denotes path value := by
  constructor
  · intro read
    have outcome := document_outcome system path
    rwa [read] at outcome
  · rintro ⟨content, leads, denotes⟩
    simp only [document, read, leads, denotes, bind, Except.bind]

theorem document_eq_error_iff {cause : Failure} :
    system.document path = .error cause ↔ system.Unread path cause := by
  constructor
  · intro refused
    have outcome := document_outcome system path
    rwa [refused] at outcome
  · intro unread
    cases unread with
    | absent nothing => simp only [document, read, nothing, bind, Except.bind]
    | directory leads => simp only [document, read, leads, bind, Except.bind]
    | unreadable leads => simp only [document, read, leads, bind, Except.bind]
    | malformed leads unread => simp only [document, read, leads, unread, bind, Except.bind]

end FileSystem

namespace Config

open Json (Value)

def Holds (system : FileSystem) (path : Text) (settings : Settings) : Prop :=
  ∃ content value, system.entry? path = some (.file content) ∧
    Value.ofText? (Utf8.toStringLossy content) = some value ∧ settings.WrittenAs value

inductive Fault (system : FileSystem) (path : Text) : Failure → Prop
  | missing (absent : system.entry? path = none) : Fault system path (.missingFile path)
  | directory (leads : system.entry? path = some .directory) : Fault system path .directoryRead
  | unreadable {message : Text} (leads : system.entry? path = some (.unreadable message)) :
      Fault system path (.foreign message)
  | malformed {content : List UInt8} (leads : system.entry? path = some (.file content))
      (unread : Value.ofText? (Utf8.toStringLossy content) = none) :
      Fault system path (.malformedJson (system.complaint (Utf8.toStringLossy content)))
  | misshapen {content : List UInt8} {value : Value}
      (leads : system.entry? path = some (.file content))
      (read : Value.ofText? (Utf8.toStringLossy content) = some value)
      (unwritten : ∀ settings : Settings, ¬ settings.WrittenAs value) :
      Fault system path (.config ((settingsIssues value).map (fileMessage path)))

variable {system : FileSystem} {path : Text}

theorem loadFile_absent (absent : system.entry? path = none) :
    loadFile system path = .error (.missingFile path) := by
  simp [loadFile, FileSystem.exists?, absent]

theorem loadFile_present (present : system.entry? path ≠ none) :
    loadFile system path = (do
      let value ← system.document path
      match Settings.ofValue value with
      | .ok settings => .ok settings
      | .error issues => .error (.config (issues.map (fileMessage path)))) :=
  if_pos (Option.isSome_iff_ne_none.mpr present)

theorem loadFile_outcome (system : FileSystem) (path : Text) :
    match loadFile system path with
    | .ok settings => Holds system path settings
    | .error cause => Fault system path cause := by
  cases present : system.entry? path with
  | none => simpa only [loadFile_absent present] using Fault.missing present
  | some entry =>
      rw [loadFile_present (Option.ne_none_iff_exists'.mpr ⟨entry, present⟩)]
      cases document : system.document path with
      | error cause =>
          cases FileSystem.document_eq_error_iff.mp document with
          | absent nothing => rw [present] at nothing; cases nothing
          | directory leads => exact .directory leads
          | unreadable leads => exact .unreadable leads
          | malformed leads unread => exact .malformed leads unread
      | ok value =>
          obtain ⟨content, leads, read⟩ := FileSystem.document_eq_ok_iff.mp document
          cases checked : Settings.ofValue value with
          | ok settings =>
              simp only [bind, Except.bind, checked]
              exact ⟨content, value, leads, read, Settings.ofValue_eq_ok_iff.mp checked⟩
          | error issues =>
              obtain ⟨unwritten, rfl⟩ := Settings.ofValue_eq_error_iff.mp checked
              simpa only [bind, Except.bind, checked] using Fault.misshapen leads read unwritten

theorem loadFile_eq_ok_iff {settings : Settings} :
    loadFile system path = .ok settings ↔ Holds system path settings := by
  constructor
  · intro loaded
    have outcome := loadFile_outcome system path
    rwa [loaded] at outcome
  · rintro ⟨content, value, leads, read, written⟩
    rw [loadFile_present (by rw [leads]; nofun),
      FileSystem.document_eq_ok_iff.mpr ⟨content, leads, read⟩]
    simp only [bind, Except.bind, Settings.ofValue_eq_ok_iff.mpr written]

theorem loadFile_eq_error_iff {cause : Failure} :
    loadFile system path = .error cause ↔ Fault system path cause := by
  constructor
  · intro refused
    have outcome := loadFile_outcome system path
    rwa [refused] at outcome
  · intro fault
    have unread (present : system.entry? path ≠ none) (unread : system.Unread path cause) :
        loadFile system path = .error cause := by
      rw [loadFile_present present, FileSystem.document_eq_error_iff.mpr unread]
      rfl
    cases fault with
    | missing absent => exact loadFile_absent absent
    | directory leads => exact unread (by rw [leads]; nofun) (.directory leads)
    | unreadable leads => exact unread (by rw [leads]; nofun) (.unreadable leads)
    | malformed leads malformed => exact unread (by rw [leads]; nofun) (.malformed leads malformed)
    | @misshapen content value leads read unwritten =>
        rw [loadFile_present (by rw [leads]; nofun),
          FileSystem.document_eq_ok_iff.mpr ⟨content, leads, read⟩]
        simp only [bind, Except.bind, Settings.ofValue_eq_error_iff.mpr ⟨unwritten, rfl⟩]

variable {environment : Environment} {options : LoadOptions}

/-- Where a path leads that is seen from the directory in which files are looked for. -/
def located (system : FileSystem) (options : LoadOptions) (path : Text) : Text :=
  Path.resolve system.workingDirectory [options.directory.getD system.workingDirectory, path]

theorem located_iff {text : Text} :
    located system options path = text ↔
      Path.Resolves system.workingDirectory
        [options.directory.getD system.workingDirectory, path] text :=
  Path.resolve_iff

/-- A path that is asked for: the one among the options if there is one, and else the one in the
environment. An empty one asks for nothing. -/
structure Asked (options : LoadOptions) (environment : Environment) (path : Text) : Prop where
  filled : path ≠ ""
  given : options.path = some path ∨
    options.path = none ∧ environment.get? "RNODE_CONFIG" = some path

/-- A usual name, and nothing exists under those that come before it. -/
def Reached (system : FileSystem) (options : LoadOptions) (name : Text) : Prop :=
  ∃ before after,
    (["rnode.config.json", ".rnoderc", ".rnoderc.json"] : List Text) = before ++ name :: after ∧
      ∀ earlier ∈ before, system.entry? (located system options earlier) = none

structure Found (system : FileSystem) (options : LoadOptions) (name : Text) : Prop where
  reached : Reached system options name
  present : system.entry? (located system options name) ≠ none

theorem askedPath?_eq_some_iff :
    askedPath? options environment = some path ↔ Asked options environment path := by
  simp only [askedPath?, Option.filter_eq_some_iff, Option.or_eq_some_iff, decide_eq_true_eq]
  exact ⟨fun ⟨given, filled⟩ => ⟨filled, given⟩, fun asked => ⟨asked.given, asked.filled⟩⟩

theorem askedPath?_eq_none_iff :
    askedPath? options environment = none ↔ ∀ path, ¬ Asked options environment path := by
  simp only [← askedPath?_eq_some_iff, Option.eq_none_iff_forall_ne_some, ne_eq]

theorem findFile?_eq (system : FileSystem) (options : LoadOptions) :
    findFile? system (options.directory.getD system.workingDirectory) =
      (fileNames.find? fun name => (system.entry? (located system options name)).isSome).map
        (located system options) :=
  List.find?_map ..

theorem find_eq_some_iff {name : Text} :
    (fileNames.find? fun name => (system.entry? (located system options name)).isSome) =
      some name ↔ Found system options name := by
  rw [List.find?_eq_some_iff_append]
  simp only [Bool.not_eq_true', Option.isSome_eq_false_iff, Option.isNone_iff_eq_none,
    Option.isSome_iff_ne_none]
  exact ⟨fun ⟨present, reached⟩ => ⟨reached, present⟩,
    fun found => ⟨found.present, found.reached⟩⟩

theorem find_eq_none_iff :
    (fileNames.find? fun name => (system.entry? (located system options name)).isSome) = none ↔
      ∀ name ∈ fileNames, system.entry? (located system options name) = none := by
  simp [List.find?_eq_none]

end Config

end NodeConsole
