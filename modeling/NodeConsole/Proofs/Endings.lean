import Mathlib.Logic.ExistsUnique
import NodeConsole.Program
import NodeConsole.Proofs.Answering
import NodeConsole.Proofs.Discipline
import NodeConsole.Proofs.LoadFailure
import NodeConsole.Proofs.Version

/-!
How an invocation as a whole ends. Its arguments, the package that says its version, the
configuration that is loaded for it, the connection and the outcome of the call, or of listening,
decide between four endings, and the report shows which of them it was.
-/

namespace NodeConsole

/-- What waiting for a server comes to, wherever the server should be bound. -/
def Http.Binding.outcome : Http.Binding → Except Failure Unit
  | .bound _ => .ok ()
  | .failed message => .error (.foreign message)

theorem Http.listen_outcome (host : Option Text) (port : Int) (binding : Http.Binding) :
    (Http.listen host port binding).result.map (fun _ => ()) = binding.outcome := by
  cases binding <;> rfl

def Failure.AboutUsage (cause : Failure) : Prop :=
  ∃ message, cause = .invalidUsage message

theorem Failure.exitCode_usage {cause : Failure} (about : cause.AboutUsage) :
    cause.exitCode = 2 := by
  obtain ⟨message, rfl⟩ := about
  rfl

theorem Failure.exitCode_other {cause : Failure} (other : ¬ cause.AboutUsage) :
    cause.exitCode = 1 := by
  cases cause with
  | invalidUsage message => exact (other ⟨message, rfl⟩).elim
  | _ => rfl

theorem Http.Binding.not_aboutUsage {binding : Http.Binding} {cause : Failure}
    (failed : binding.outcome = .error cause) : ¬ cause.AboutUsage := by
  cases binding with
  | bound address => cases failed
  | failed message =>
      cases failed
      rintro ⟨_, same⟩
      cases same

theorem Rpc.connect_not_aboutUsage {host : Text} {port : Int} {cause : Failure}
    (refused : Rpc.connect host port = .error cause) : ¬ cause.AboutUsage := by
  rintro ⟨message, rfl⟩
  simp only [Rpc.connect] at refused
  split at refused
  · cases refused
  · split at refused
    · cases refused
    · split at refused
      · split at refused
        · cases refused
        · cases refused
      · cases refused

theorem Rpc.reply_not_aboutUsage {call : NodeCall} {outcome : Rpc.Outcome} {cause : Failure}
    (fails : Rpc.reply call outcome = .error cause) : ¬ cause.AboutUsage := by
  obtain ⟨_, _, _, _, rfl⟩ := Rpc.reply_error fails
  rintro ⟨_, same⟩
  cases same

theorem Config.load_not_aboutUsage {system : FileSystem} {environment : Environment}
    {options : Config.LoadOptions} {cause : Failure}
    (failed : (Config.load system environment options).result = .error cause) :
    ¬ cause.AboutUsage := by
  rintro ⟨message, rfl⟩
  cases given : (Config.fileSettings system environment options).2 with
  | ok file =>
      have fromFile := Config.fileSettings_eq_ok_iff.mp given
      obtain ⟨messages, _, same⟩ := (Config.load_eq_error_iff fromFile).mp failed
      cases same
  | error faulty =>
      obtain ⟨path, _, fault⟩ := Config.fileSettings_eq_error_iff.mp given
      simp only [Config.load, given] at failed
      cases failed
      cases fault

theorem FileSystem.Unread.not_aboutUsage {system : FileSystem} {path : Text} {cause : Failure}
    (unread : system.Unread path cause) : ¬ cause.AboutUsage := by
  rintro ⟨message, rfl⟩
  cases unread

theorem Package.Fault.not_aboutUsage {system : FileSystem} {directory : Text} {cause : Failure}
    (fault : Package.Fault system directory cause) : ¬ cause.AboutUsage := by
  cases fault with
  | unread _ unread => exact unread.not_aboutUsage
  | misshapen =>
      rintro ⟨_, same⟩
      cases same

namespace Program

open CommandLine

def Invocation.loaded (invocation : Invocation) : Config.Loaded :=
  Config.load invocation.system invocation.environment

inductive Ending where
  | information (text : Text)
  | evaluation (config : Config) (call : NodeCall) (output : Text)
  | page (config : Config)
  | failure (cause : Failure)

def Ending.of {α : Type} (good : α → Ending) : Except Failure α → Ending
  | .ok value => good value
  | .error cause => .failure cause

inductive Brings (outcome : Rpc.Outcome) : Mode → NodeCall → Except Failure Text → Prop
  | inline {code : Text} {output : Except Failure Text}
      (replied : Rpc.reply (.run code) outcome = output) :
      Brings outcome (.inline code) (.run code) output
  | file {fileName : Text} {output : Except Failure Text}
      (replied : Rpc.reply (.eval fileName) outcome = output) :
      Brings outcome (.file fileName) (.eval fileName) output

inductive Uses (happenings : Happenings) (config : Config) : Mode → Ending → Prop
  | page : Uses happenings config .web (.of (fun _ => .page config) happenings.listening)
  | evaluation {chosen : Mode} {call : NodeCall} {output : Except Failure Text}
      (brings : Brings happenings.transport.next chosen call output) :
      Uses happenings config chosen (.of (.evaluation config call) output)

inductive Runs (arguments : List Text) (happenings : Happenings) (config : Config) : Ending → Prop
  | lacking (lacks : LacksFile arguments) :
      Runs arguments happenings config (.failure missingFile)
  | unconnected {chosen : Mode} {cause : Failure} (asks : Asks arguments chosen)
      (refused : Rpc.connect config.host config.port = .error cause) :
      Runs arguments happenings config (.failure cause)
  | connected {chosen : Mode} {target : Text} {ending : Ending} (asks : Asks arguments chosen)
      (accepted : Rpc.connect config.host config.port = .ok target)
      (uses : Uses happenings config chosen ending) :
      Runs arguments happenings config ending

structure Loads (invocation : Invocation) (config : Config) : Prop where
  noInfo : ∀ info, ¬ AsksInfo invocation.allArguments info
  loaded : invocation.loaded.result = .ok config

/-- What an invocation has to say when it is asked for information. The version is the one that the
package beside the program says. -/
inductive Tells (invocation : Invocation) : Info → Text → Prop
  | help : Tells invocation .help (usage ++ "\n" : String)
  | version {version : Text}
      (states : Package.Says invocation.system invocation.directory version) :
      Tells invocation .version ("rnode-client v" ++ version ++ "\n")

inductive Ends (invocation : Invocation) (happenings : Happenings) : Ending → Prop
  | informed {info : Info} {text : Text} (asks : AsksInfo invocation.allArguments info)
      (tells : Tells invocation info text) : Ends invocation happenings (.information text)
  | unversioned {cause : Failure} (asks : AsksInfo invocation.allArguments .version)
      (fault : Package.Fault invocation.system invocation.directory cause) :
      Ends invocation happenings (.failure cause)
  | unloaded {cause : Failure} (noInfo : ∀ info, ¬ AsksInfo invocation.allArguments info)
      (failed : invocation.loaded.result = .error cause) :
      Ends invocation happenings (.failure cause)
  | loaded {config : Config} {ending : Ending} (loads : Loads invocation config)
      (runs : Runs invocation.allArguments happenings config ending) :
      Ends invocation happenings ending

section

variable {happenings : Happenings} {config : Config} {arguments : List Text} {chosen : Mode}
variable {ending other : Ending}

theorem Uses.unique (first : Uses happenings config chosen ending)
    (second : Uses happenings config chosen other) : other = ending := by
  cases first with
  | page =>
      cases second with
      | page => rfl
      | evaluation brings => cases brings
  | evaluation brings =>
      cases second with
      | page => cases brings
      | evaluation also =>
          cases brings with
          | inline replied => cases also with | inline same => rw [← replied, ← same]
          | file replied => cases also with | file same => rw [← replied, ← same]

theorem Runs.unique (first : Runs arguments happenings config ending)
    (second : Runs arguments happenings config other) : other = ending := by
  cases first with
  | lacking lacks =>
      cases second with
      | lacking => rfl
      | unconnected asks => exact (asks.not_lacks lacks).elim
      | connected asks => exact (asks.not_lacks lacks).elim
  | unconnected asks refused =>
      cases second with
      | lacking lacks => exact (asks.not_lacks lacks).elim
      | unconnected _ also =>
          rw [refused] at also
          cases also
          rfl
      | connected _ accepted =>
          rw [refused] at accepted
          cases accepted
  | connected asks accepted uses =>
      cases second with
      | lacking lacks => exact (asks.not_lacks lacks).elim
      | unconnected _ refused =>
          rw [accepted] at refused
          cases refused
      | connected also _ used =>
          cases asks.unique also
          exact uses.unique used

end

variable {invocation : Invocation} {happenings : Happenings} {config : Config}
variable {ending other : Ending}

theorem Tells.infoText_eq {info : Info} {text : Text} (tells : Tells invocation info text) :
    infoText (Package.version invocation.system invocation.directory) info = .ok text := by
  cases tells with
  | help => rfl
  | version states =>
      rw [infoText, Package.version_eq_ok_iff.mpr states]
      rfl

theorem infoText_fault {cause : Failure}
    (fault : Package.Fault invocation.system invocation.directory cause) :
    infoText (Package.version invocation.system invocation.directory) .version = .error cause := by
  rw [infoText, Package.version_eq_error_iff.mpr fault]
  rfl

theorem AsksInfo.unique {info another : Info} (asks : AsksInfo invocation.allArguments info)
    (also : AsksInfo invocation.allArguments another) : another = info :=
  Option.some.inj ((info?_eq_some_iff.mpr also).symm.trans (info?_eq_some_iff.mpr asks))

theorem Ends.unique (first : Ends invocation happenings ending)
    (second : Ends invocation happenings other) : other = ending := by
  cases first with
  | informed asks tells =>
      cases second with
      | informed also told =>
          obtain rfl := AsksInfo.unique asks also
          rw [Except.ok.inj (told.infoText_eq.symm.trans tells.infoText_eq)]
      | unversioned also fault =>
          obtain rfl := AsksInfo.unique asks also
          cases tells.infoText_eq.symm.trans (infoText_fault fault)
      | unloaded noInfo => exact (noInfo _ asks).elim
      | loaded loads => exact (loads.noInfo _ asks).elim
  | unversioned asks fault =>
      cases second with
      | informed also told =>
          obtain rfl := AsksInfo.unique asks also
          cases told.infoText_eq.symm.trans (infoText_fault fault)
      | unversioned _ also =>
          rw [Except.error.inj ((infoText_fault also).symm.trans (infoText_fault fault))]
      | unloaded noInfo => exact (noInfo _ asks).elim
      | loaded loads => exact (loads.noInfo _ asks).elim
  | unloaded noInfo failed =>
      cases second with
      | informed asks => exact (noInfo _ asks).elim
      | unversioned asks => exact (noInfo _ asks).elim
      | unloaded _ also =>
          rw [failed] at also
          cases also
          rfl
      | loaded loads => rw [loads.loaded] at failed; cases failed
  | loaded loads runs =>
      cases second with
      | informed asks => exact (loads.noInfo _ asks).elim
      | unversioned asks => exact (loads.noInfo _ asks).elim
      | unloaded _ failed => rw [loads.loaded] at failed; cases failed
      | loaded also run =>
          have same := loads.loaded.symm.trans also.loaded
          cases same
          exact runs.unique run

theorem lacks_iff : LacksFile invocation.allArguments ↔ invocation.arguments = [] := by
  constructor
  · intro lacks
    have first := lacks.first
    rw [Invocation.allArguments, List.getElem?_cons_succ] at first
    exact List.head?_eq_none_iff.mp (List.head?_eq_getElem?.trans first)
  · intro bare
    rw [Invocation.allArguments, bare]
    exact ⟨by decide, by decide, rfl⟩

def opened (trace : Trace) : Nat :=
  trace.connects.countP fun (host, port) => (Rpc.connect host port).isOk

def Bare (invocation : Invocation) : Prop :=
  invocation.arguments = [] ∧ ∃ config, invocation.loaded.result = .ok config

/-- The text is all that comes of an invocation, whatever it happens in. -/
structure Informs (invocation : Invocation) (happenings : Happenings) (text : Text) : Prop where
  connects : (trace invocation happenings).connects = []
  report : run invocation happenings = {
    stdout := [text], stderr := [], exit := none, listened := [], served := []
    sent := [], closes := 0, handlers := 0 }

/-- The output of the one call is all that is written, and the client is closed. -/
structure Prints (invocation : Invocation) (happenings : Happenings) (config : Config)
    (call : NodeCall) (output : Text) : Prop where
  stdout : (run invocation happenings).stdout = [output ++ "\n"]
  stderr : (run invocation happenings).stderr = invocation.loaded.warnings
  exit : (run invocation happenings).exit = none
  sent : (run invocation happenings).sent =
    [Rpc.request (config.host ++ ":" ++ Number.integerText config.port) call]
  listened : (run invocation happenings).listened = []
  opened : opened (trace invocation happenings) = 1
  closes : (run invocation happenings).closes = 1

/-- The address is all that is written, and only a signal ends the page. -/
structure Stays (invocation : Invocation) (happenings : Happenings) (config : Config) : Prop where
  stdout : (run invocation happenings).stdout =
    [(("rnode web UI at http://0.0.0.0:" ++ Number.integerText config.webPort ++ "\n" : String) :
      Text)]
  stderr : (run invocation happenings).stderr = invocation.loaded.warnings
  exit : (run invocation happenings).exit = happenings.signal.map fun _ => 0
  listened : (run invocation happenings).listened = [("0.0.0.0", config.webPort)]
  opened : opened (trace invocation happenings) = 1
  closes : (run invocation happenings).closes = 0

/-- The warnings of an invocation; one that is asked for information loads no configuration. -/
inductive Warns (invocation : Invocation) : List LogEntry → Prop
  | informing {info : Info} (asks : AsksInfo invocation.allArguments info) : Warns invocation []
  | loading (noInfo : ∀ info, ¬ AsksInfo invocation.allArguments info) :
      Warns invocation invocation.loaded.warnings

/-- The failure is all that is reported, and no client is left open. -/
structure Complains (invocation : Invocation) (happenings : Happenings) (cause : Failure) :
    Prop where
  stdout : (run invocation happenings).stdout = []
  closes : (run invocation happenings).closes = opened (trace invocation happenings)
  stderr : ∃ warnings advice, Warns invocation warnings ∧
    (run invocation happenings).stderr = warnings ++
        { level := .error, text := "Error: " ++ cause.message } :: advice ∧
    (cause.AboutUsage ∧ advice = [{ level := .error, text := usage }] ∨
      ¬ cause.AboutUsage ∧ advice = [])
  exit : Bare invocation ∧ (run invocation happenings).exit = some 2 ∨
    ¬ Bare invocation ∧ (run invocation happenings).exit = some 1

def Ending.Shows (invocation : Invocation) (happenings : Happenings) : Ending → Prop
  | .information text => Informs invocation happenings text
  | .evaluation config call output => Prints invocation happenings config call output
  | .page config => Stays invocation happenings config
  | .failure cause => Complains invocation happenings cause

theorem complaint_eq (cause : Failure) :
    ∃ advice, complaint cause = { level := .error, text := "Error: " ++ cause.message } :: advice ∧
      (cause.AboutUsage ∧ advice = [{ level := .error, text := usage }] ∨
        ¬ cause.AboutUsage ∧ advice = []) := by
  by_cases about : cause.AboutUsage
  · refine ⟨_, ?_, .inl ⟨about, rfl⟩⟩
    obtain ⟨message, rfl⟩ := about
    rfl
  · refine ⟨_, ?_, .inr ⟨about, rfl⟩⟩
    cases cause with
    | invalidUsage message => exact (about ⟨message, rfl⟩).elim
    | _ => rfl

theorem complains {cause : Failure}
    (outcome : (trace invocation happenings).outcome = .error cause)
    (silent : (trace invocation happenings).writes = [])
    (warned : Warns invocation (trace invocation happenings).warnings)
    (closed : (trace invocation happenings).closes = opened (trace invocation happenings))
    (bare : cause.AboutUsage ↔ Bare invocation) : Complains invocation happenings cause := by
  refine ⟨silent, closed, ?_, ?_⟩
  · obtain ⟨advice, complains, usable⟩ := complaint_eq cause
    refine ⟨_, advice, warned, ?_, usable⟩
    simp only [run, outcome, complains]
  · rw [← bare]
    by_cases about : cause.AboutUsage
    · refine .inl ⟨about, ?_⟩
      simp only [run, outcome, Failure.exitCode_usage about]
    · refine .inr ⟨about, ?_⟩
      simp only [run, outcome, Failure.exitCode_other about]

theorem stays (serves : Serves (trace invocation happenings) config.webPort (.ok ()))
    (warned : (trace invocation happenings).warnings = invocation.loaded.warnings)
    (opens : opened (trace invocation happenings) = 1) :
    Stays invocation happenings config := by
  have serving : isServing (trace invocation happenings) = true := by
    rw [isServing, serves.served, serves.outcome]
    rfl
  refine ⟨serves.writes, ?_, ?_, ?_, opens, serves.closes⟩
  · simp only [run, warned, serves.outcome, List.append_nil]
  · simp only [run, serves.outcome, serving]
    cases happenings.signal with
    | none => rfl
    | some signal => rfl
  · simp only [run, serves.served]
    rfl

theorem prints {call : NodeCall} {output : Text}
    (evaluates : Evaluates (trace invocation happenings) call (.ok output))
    (warned : (trace invocation happenings).warnings = invocation.loaded.warnings)
    (connects : (trace invocation happenings).connects = [(config.host, config.port)])
    (opens : opened (trace invocation happenings) = 1) :
    Prints invocation happenings config call output := by
  have quiet : isServing (trace invocation happenings) = false := by
    rw [isServing, evaluates.served]
    rfl
  have outcome : (trace invocation happenings).outcome = .ok () := evaluates.outcome
  refine ⟨evaluates.writes, ?_, ?_, ?_, ?_, opens, evaluates.closes⟩
  · simp only [run, warned, outcome, List.append_nil]
  · simp only [run, outcome, quiet]
    rfl
  · simp only [run, quiet, connects, evaluates.calls]
    rfl
  · simp only [run, evaluates.served]
    rfl

def outside (invocation : Invocation) (happenings : Happenings) : Outside where
  version := Package.version invocation.system invocation.directory
  connect host port := (Rpc.connect host port).map fun _ => ()
  serve := happenings.listening
  reply call := Rpc.reply call happenings.transport.next

theorem Loads.trace_eq (loads : Loads invocation config) (happenings : Happenings) :
    trace invocation happenings =
      (CommandLine.run (outside invocation happenings) config invocation.allArguments).warned
        invocation.loaded.warnings :=
  invoke_loaded loads.noInfo loads.loaded

theorem Loads.disciplined (loads : Loads invocation config) (happenings : Happenings) :
    Disciplined (outside invocation happenings) config invocation.allArguments
      (trace invocation happenings) := by
  rw [loads.trace_eq]
  exact (run_disciplined ..).warned _

theorem Loads.warnings (loads : Loads invocation config) (happenings : Happenings) :
    (trace invocation happenings).warnings = invocation.loaded.warnings := by
  rw [loads.trace_eq, Trace.warnings_warned, run_warnings, List.append_nil]

theorem Loads.warned (loads : Loads invocation config) (happenings : Happenings) :
    Warns invocation (trace invocation happenings).warnings := by
  rw [loads.warnings happenings]
  exact .loading loads.noInfo

theorem Loads.connects {chosen : Mode} (loads : Loads invocation config)
    (asks : Asks invocation.allArguments chosen) (happenings : Happenings) :
    (trace invocation happenings).connects = [(config.host, config.port)] := by
  rw [loads.trace_eq, Trace.connects_warned, run_connects asks]

theorem not_bare_of_asks {chosen : Mode} (asks : Asks invocation.allArguments chosen) :
    ¬ Bare invocation :=
  fun bare => asks.not_lacks (lacks_iff.mpr bare.1)

theorem not_bare_of_asksInfo {info : Info} (asks : AsksInfo invocation.allArguments info) :
    ¬ Bare invocation := by
  rintro ⟨bare, _⟩
  obtain ⟨flag, _, first⟩ := asks.first
  rw [Invocation.allArguments, bare] at first
  cases first

theorem complains_of_idle {cause : Failure} (idle : Idle (trace invocation happenings) cause)
    (warned : Warns invocation (trace invocation happenings).warnings)
    (unopened : opened (trace invocation happenings) = 0)
    (bare : cause.AboutUsage ↔ Bare invocation) : Complains invocation happenings cause :=
  complains idle.outcome idle.writes warned (idle.closes.trans unopened.symm) bare

theorem Uses.shows {chosen : Mode} {target : Text} (uses : Uses happenings config chosen ending)
    (loads : Loads invocation config) (asks : Asks invocation.allArguments chosen)
    (accepted : Rpc.connect config.host config.port = .ok target)
    (foreign : ∀ cause, happenings.listening = .error cause → ¬ cause.AboutUsage) :
    ending.Shows invocation happenings := by
  have disciplined := loads.disciplined happenings
  have warnings := loads.warnings happenings
  have warned := loads.warned happenings
  have connects := loads.connects asks happenings
  have connected : (outside invocation happenings).connect config.host config.port = .ok () := by
    simp only [outside, accepted]
    rfl
  have opens : opened (trace invocation happenings) = 1 := by
    simp only [opened, connects, List.countP_singleton, accepted]
    rfl
  -- there are arguments, so that no failure from here on is about the lack of them
  have other {cause : Failure} (usable : ¬ cause.AboutUsage) :
      cause.AboutUsage ↔ Bare invocation := iff_of_false usable (not_bare_of_asks asks)
  cases uses with
  | page =>
      have serves : Serves (trace invocation happenings) config.webPort happenings.listening :=
        disciplined.web asks connected
      cases listened : happenings.listening with
      | ok up =>
          rw [listened] at serves
          exact stays serves warnings opens
      | error cause =>
          rw [listened] at serves
          exact complains serves.outcome serves.writes warned (serves.closes.trans opens.symm)
            (other (foreign cause listened))
  | @evaluation _ call output brings =>
      have evaluates : Evaluates (trace invocation happenings) call output := by
        cases brings with
        | inline replied => exact replied ▸ disciplined.inline _ asks connected
        | file replied => exact replied ▸ disciplined.file _ asks connected
      cases output with
      | ok text => exact prints evaluates warnings connects opens
      | error cause =>
          have usable : ¬ cause.AboutUsage := by
            cases brings with
            | inline replied => exact Rpc.reply_not_aboutUsage replied
            | file replied => exact Rpc.reply_not_aboutUsage replied
          exact complains evaluates.outcome evaluates.writes warned
            (evaluates.closes.trans opens.symm) (other usable)

theorem Runs.shows (runs : Runs invocation.allArguments happenings config ending)
    (loads : Loads invocation config)
    (foreign : ∀ cause, happenings.listening = .error cause → ¬ cause.AboutUsage) :
    ending.Shows invocation happenings := by
  have disciplined := loads.disciplined happenings
  have warned := loads.warned happenings
  cases runs with
  | lacking lacks =>
      have unopened : opened (trace invocation happenings) = 0 := by
        rw [opened, (disciplined.connects.resolve_right fun asks => asks.1 lacks).2]
        rfl
      exact complains_of_idle (disciplined.missing lacks) warned unopened
        (iff_of_true ⟨_, rfl⟩ ⟨lacks_iff.mp lacks, config, loads.loaded⟩)
  | @unconnected _ cause asks refused =>
      have unconnected :
          (outside invocation happenings).connect config.host config.port = .error cause := by
        simp only [outside, refused]
        rfl
      have unopened : opened (trace invocation happenings) = 0 := by
        simp only [opened, loads.connects asks, List.countP_singleton, refused]
        rfl
      have idle := disciplined.unconnected asks.not_lacks cause unconnected
      exact complains_of_idle idle warned unopened
        (iff_of_false (Rpc.connect_not_aboutUsage refused) (not_bare_of_asks asks))
  | connected asks accepted uses => exact uses.shows loads asks accepted foreign

theorem informs {info : Info} {text : Text} (asks : AsksInfo invocation.allArguments info)
    (tells : Tells invocation info text) : Informs invocation happenings text := by
  have informed : trace invocation happenings =
      { actions := [.write text], outcome := .ok () } :=
    (invoke_info _ asks).trans (congrArg inform tells.infoText_eq)
  refine ⟨?_, ?_⟩
  · rw [informed]
    rfl
  · simp only [run, informed]
    rfl

theorem Ends.shows (ends : Ends invocation happenings ending)
    (foreign : ∀ cause, happenings.listening = .error cause → ¬ cause.AboutUsage) :
    ending.Shows invocation happenings := by
  cases ends with
  | informed asks tells => exact informs asks tells
  | @unversioned cause asks fault =>
      have unversioned : trace invocation happenings = { actions := [], outcome := .error cause } :=
        (invoke_info _ asks).trans (congrArg inform (infoText_fault fault))
      have idle : Idle (trace invocation happenings) cause := by
        rw [unversioned]
        exact ⟨rfl, rfl, rfl, rfl, rfl⟩
      refine complains_of_idle idle ?_ ?_
        (iff_of_false fault.not_aboutUsage (not_bare_of_asksInfo asks))
      · rw [unversioned]
        exact .informing asks
      · rw [opened, unversioned]
        rfl
  | @unloaded cause noInfo failed =>
      have unloaded : trace invocation happenings =
          Trace.warned invocation.loaded.warnings
            { actions := [], outcome := .error cause } := invoke_unloaded noInfo failed
      have unloadable : ¬ Bare invocation := by
        rintro ⟨_, config, loaded⟩
        rw [failed] at loaded
        cases loaded
      have idle : Idle (trace invocation happenings) cause := by
        rw [unloaded]
        exact Idle.warned _ ⟨rfl, rfl, rfl, rfl, rfl⟩
      refine complains_of_idle idle ?_ ?_
        (iff_of_false (Config.load_not_aboutUsage failed) unloadable)
      · rw [unloaded, Trace.warnings_warned]
        exact (List.append_nil invocation.loaded.warnings).symm ▸ .loading noInfo
      · rw [opened, unloaded, Trace.connects_warned]
        rfl
  | loaded loads runs => exact runs.shows loads foreign

example :
    (run { system := Config.brokenFirst, directory := "/", environment := [], arguments := [] }
      { transport := default }).exit = some 2 := by
  decide +kernel

end Program

end NodeConsole
