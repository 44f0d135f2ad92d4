import NodeConsole.CommandLine

/-!
How an invocation deals with the node. It connects at most once, makes one call or serves the page,
closes what it opened unless the page is up, and reports a failure as it came.
-/

namespace NodeConsole

namespace CommandLine

variable {arguments : List Text}

def Info.flags : Info → List Text
  | .help => ["--help", "-h"]
  | .version => ["--version", "-v"]

structure AsksInfo (arguments : List Text) (info : Info) : Prop where
  notWeb : ("-w" : Text) ∉ arguments
  notInline : ("-c" : Text) ∉ arguments
  first : ∃ flag ∈ info.flags, arguments[1]? = some flag

/-- What arguments ask for when they are not taken as asking for information. -/
inductive Asks (arguments : List Text) : Mode → Prop
  | web (flag : ("-w" : Text) ∈ arguments) : Asks arguments .web
  | inline {code : Text} (notWeb : ("-w" : Text) ∉ arguments) (flag : ("-c" : Text) ∈ arguments)
      (last : arguments.getLast? = some code) : Asks arguments (.inline code)
  | file {fileName : Text} (notWeb : ("-w" : Text) ∉ arguments)
      (notInline : ("-c" : Text) ∉ arguments) (first : arguments[1]? = some fileName) :
      Asks arguments (.file fileName)

/-- Arguments that neither have a flag for a mode nor name a file. -/
structure LacksFile (arguments : List Text) : Prop where
  notWeb : ("-w" : Text) ∉ arguments
  notInline : ("-c" : Text) ∉ arguments
  first : arguments[1]? = none

def missingFile : Failure :=
  .invalidUsage "Missing file path (or use -c <code> or -w)"

theorem mode_eq (arguments : List Text) :
    mode arguments =
      if ("-w" : Text) ∈ arguments then .ok .web
      else if ("-c" : Text) ∈ arguments then .ok (.inline (arguments.getLast?.getD ""))
      else (arguments[1]?).elim (.error missingFile) fun fileName => .ok (.file fileName) := by
  unfold mode
  by_cases web : ("-w" : Text) ∈ arguments
  · rw [if_pos web, if_pos (List.contains_iff_mem.mpr web)]
  · rw [if_neg web, if_neg (web ∘ List.contains_iff_mem.mp)]
    by_cases inline : ("-c" : Text) ∈ arguments
    · rw [if_pos inline, if_pos (List.contains_iff_mem.mpr inline)]
    · rw [if_neg inline, if_neg (inline ∘ List.contains_iff_mem.mp)]
      rcases arguments with _ | ⟨program, _ | ⟨fileName, rest⟩⟩
      · rfl
      · rfl
      · rfl

theorem mode_eq_ok_iff {chosen : Mode} : mode arguments = .ok chosen ↔ Asks arguments chosen := by
  rw [mode_eq]
  constructor
  · intro taken
    split at taken
    next web =>
      cases taken
      exact .web web
    next notWeb =>
      split at taken
      next inline =>
        cases taken
        cases last : arguments.getLast? with
        | none =>
            rw [List.getLast?_eq_none_iff.mp last] at inline
            cases inline
        | some code => exact .inline notWeb inline last
      next notInline =>
        cases first : arguments[1]? with
        | none => rw [first] at taken; cases taken
        | some fileName =>
            rw [first] at taken
            cases taken
            exact .file notWeb notInline first
  · intro asks
    cases asks with
    | web flag => rw [if_pos flag]
    | inline notWeb flag last => rw [if_neg notWeb, if_pos flag, last]; rfl
    | file notWeb notInline first => rw [if_neg notWeb, if_neg notInline, first]; rfl

theorem mode_eq_error_iff {cause : Failure} :
    mode arguments = .error cause ↔ LacksFile arguments ∧ cause = missingFile := by
  rw [mode_eq]
  constructor
  · intro refused
    split at refused
    · cases refused
    next notWeb =>
      split at refused
      · cases refused
      next notInline =>
        cases first : arguments[1]? with
        | none =>
            rw [first] at refused
            cases refused
            exact ⟨⟨notWeb, notInline, first⟩, rfl⟩
        | some fileName => rw [first] at refused; cases refused
  · rintro ⟨lacks, rfl⟩
    rw [if_neg lacks.notWeb, if_neg lacks.notInline, lacks.first]
    rfl

theorem Asks.unique {chosen other : Mode} (asks : Asks arguments chosen)
    (also : Asks arguments other) : other = chosen :=
  Except.ok.inj ((mode_eq_ok_iff.mpr also).symm.trans (mode_eq_ok_iff.mpr asks))

theorem asks_or_lacks (arguments : List Text) :
    (∃ chosen, Asks arguments chosen) ∨ LacksFile arguments := by
  cases taken : mode arguments with
  | ok chosen => exact .inl ⟨chosen, mode_eq_ok_iff.mp taken⟩
  | error cause => exact .inr (mode_eq_error_iff.mp taken).1

theorem info?_eq_some_iff {info : Info} :
    info? arguments = some info ↔ AsksInfo arguments info := by
  have flagged (flag : Text) :
      (if flag = "--help" ∨ flag = "-h" then some Info.help
        else if flag = "--version" ∨ flag = "-v" then some .version else none) = some info ↔
      flag ∈ info.flags := by
    by_cases help : flag = "--help" ∨ flag = "-h"
    · rcases help with rfl | rfl <;> cases info <;> decide
    · by_cases version : flag = "--version" ∨ flag = "-v"
      · rcases version with rfl | rfl <;> cases info <;> decide
      · rw [if_neg help, if_neg version]
        cases info <;> simp [Info.flags, help, version]
  have modes : (arguments.contains "-w" || arguments.contains "-c") = true ↔
      ("-w" : Text) ∈ arguments ∨ ("-c" : Text) ∈ arguments := by
    simp only [Bool.or_eq_true, List.contains_iff_mem]
  rw [info?]
  split
  next mode =>
    simp only [reduceCtorEq, false_iff]
    rintro ⟨notWeb, notInline, _⟩
    exact (modes.mp mode).elim notWeb notInline
  next noMode =>
    simp only [Option.bind_eq_some_iff, flagged]
    obtain ⟨notWeb, notInline⟩ := not_or.mp (noMode ∘ modes.mpr)
    constructor
    · rintro ⟨flag, first, listed⟩
      exact ⟨notWeb, notInline, flag, listed, first⟩
    · rintro ⟨_, _, flag, listed, first⟩
      exact ⟨flag, first, listed⟩

theorem info?_eq_none_iff : info? arguments = none ↔ ∀ info, ¬ AsksInfo arguments info := by
  simp only [← info?_eq_some_iff, Option.eq_none_iff_forall_ne_some, ne_eq]

variable {outside : Outside} {config : Config}

theorem run_missing (lacks : LacksFile arguments) :
    run outside config arguments = { actions := [], outcome := .error missingFile } := by
  rw [run, mode_eq_error_iff.mpr ⟨lacks, rfl⟩]

theorem run_unconnected {chosen : Mode} {cause : Failure} (asks : Asks arguments chosen)
    (refused : outside.connect config.host config.port = .error cause) :
    run outside config arguments =
      { actions := [.connect config.host config.port], outcome := .error cause } := by
  simp only [run, mode_eq_ok_iff.mpr asks, refused]

theorem run_connected {chosen : Mode} (asks : Asks arguments chosen)
    (opened : outside.connect config.host config.port = .ok ()) :
    run outside config arguments =
      match chosen with
      | .web => serve (.connect config.host config.port) config.webPort outside.serve
      | .inline code =>
        evaluate (.connect config.host config.port) (.run code) (outside.reply (.run code))
      | .file fileName =>
        evaluate (.connect config.host config.port) (.eval fileName)
          (outside.reply (.eval fileName)) := by
  simp only [run, mode_eq_ok_iff.mpr asks, opened]
  cases chosen <;> rfl

namespace Trace

def warned (warnings : List LogEntry) (trace : Trace) : Trace :=
  { trace with actions := warnings.map .warn ++ trace.actions }

section

variable (warnings : List LogEntry) (trace : Trace)

@[simp]
theorem writes_warned : (trace.warned warnings).writes = trace.writes := by
  simp [writes, warned, List.filterMap_map]

@[simp]
theorem connects_warned : (trace.warned warnings).connects = trace.connects := by
  simp [connects, warned, List.filterMap_map]

@[simp]
theorem served_warned : (trace.warned warnings).served = trace.served := by
  simp [served, warned, List.filterMap_map]

@[simp]
theorem calls_warned : (trace.warned warnings).calls = trace.calls := by
  simp [calls, warned, List.filterMap_map]

@[simp]
theorem warnings_warned : (trace.warned warnings).warnings = warnings ++ trace.warnings := by
  simp only [Trace.warnings, warned, List.filterMap_append, List.filterMap_map]
  exact congrArg (· ++ _) List.filterMap_some

@[simp]
theorem closes_warned : (trace.warned warnings).closes = trace.closes := by
  simp [closes, warned, List.count_eq_zero]

@[simp]
theorem outcome_warned : (trace.warned warnings).outcome = trace.outcome := rfl

end

end Trace

theorem invoke_info {info : Info} (loaded : Config.Loaded) (asks : AsksInfo arguments info) :
    invoke outside loaded arguments = inform (infoText outside.version info) := by
  rw [invoke, info?_eq_some_iff.mpr asks]

theorem invoke_unloaded {loaded : Config.Loaded} {cause : Failure}
    (noInfo : ∀ info, ¬ AsksInfo arguments info) (failed : loaded.result = .error cause) :
    invoke outside loaded arguments =
      Trace.warned loaded.warnings { actions := [], outcome := .error cause } := by
  simp only [invoke, info?_eq_none_iff.mpr noInfo, failed, Trace.warned, List.append_nil]

theorem invoke_loaded {loaded : Config.Loaded} (noInfo : ∀ info, ¬ AsksInfo arguments info)
    (succeeded : loaded.result = .ok config) :
    invoke outside loaded arguments =
      (run outside config arguments).warned loaded.warnings := by
  simp only [invoke, info?_eq_none_iff.mpr noInfo, succeeded, Trace.warned]

def Precedes (first second : Action) (actions : List Action) : Prop :=
  ∀ before after, actions = before ++ second :: after → first ∈ before

theorem Precedes.start {first second : Action} (different : first ≠ second)
    (rest : List Action) : Precedes first second (first :: rest) := by
  intro before after split
  cases before with
  | nil => exact (different (List.cons.inj split).1).elim
  | cons action before =>
      rw [(List.cons.inj split).1]
      exact List.mem_cons_self

theorem Precedes.cons {first second action : Action} {rest : List Action}
    (precedes : Precedes first second rest) (different : action ≠ second) :
    Precedes first second (action :: rest) := by
  intro before after split
  cases before with
  | nil => exact (different (List.cons.inj split).1).elim
  | cons other before =>
      have later := precedes before after (List.cons.inj split).2
      exact List.mem_cons_of_mem other later

theorem Precedes.warned {first second : Action} {trace : Trace}
    (precedes : Precedes first second trace.actions) (noWarning : ∀ entry, .warn entry ≠ second)
    (warnings : List LogEntry) : Precedes first second (trace.warned warnings).actions := by
  induction warnings with
  | nil => exact precedes
  | cons entry rest ih => exact ih.cons (noWarning entry)

/-- What is written of an outcome: one line where it is good, and nothing where it is a failure. -/
def lines {α : Type} (line : α → Text) : Except Failure α → List Text
  | .ok value => [line value]
  | .error _ => []

structure Idle (trace : Trace) (cause : Failure) : Prop where
  calls : trace.calls = []
  served : trace.served = []
  closes : trace.closes = 0
  writes : trace.writes = []
  outcome : trace.outcome = .error cause

structure Evaluates (trace : Trace) (call : NodeCall) (output : Except Failure Text) : Prop where
  calls : trace.calls = [call]
  settles : Precedes (.call call) .settled trace.actions
  closes : trace.closes = 1
  closesSettled : Precedes .settled .close trace.actions
  served : trace.served = []
  writes : trace.writes = lines (fun text => text ++ "\n") output
  outcome : trace.outcome = output.map fun _ => ()

/-- The page was served, and what was opened for it stays open just when that went well. -/
structure Serves (trace : Trace) (webPort : Int) (outcome : Except Failure Unit) : Prop where
  calls : trace.calls = []
  served : trace.served = [webPort]
  closes : trace.closes = if outcome.isOk then 0 else 1
  closesSettled : Precedes .settled .close trace.actions
  writes : trace.writes = lines (fun _ =>
    (("rnode web UI at http://0.0.0.0:" ++ Number.integerText webPort ++ "\n" : String) : Text))
    outcome
  outcome : trace.outcome = outcome

theorem settled_precedes (opened awaited : Action) (rest : List Action) (notClose : opened ≠ .close)
    (alsoNot : awaited ≠ .close) :
    Precedes .settled .close (opened :: awaited :: .settled :: rest) := by
  apply Precedes.cons _ notClose
  apply Precedes.cons _ alsoNot
  exact Precedes.start (by nofun) rest

theorem evaluate_evaluates (host : Text) (port : Int) (call : NodeCall)
    (output : Except Failure Text) :
    Evaluates (evaluate (.connect host port) call output) call output := by
  have called (rest : List Action) :
      Precedes (.call call) .settled (.connect host port :: .call call :: rest) := by
    apply Precedes.cons
    · exact Precedes.start (by nofun) rest
    · nofun
  cases output with
  | ok text => exact ⟨rfl, called _, rfl, settled_precedes _ _ _ nofun nofun, rfl, rfl, rfl⟩
  | error cause => exact ⟨rfl, called _, rfl, settled_precedes _ _ _ nofun nofun, rfl, rfl, rfl⟩

theorem serve_serves (host : Text) (port webPort : Int) (outcome : Except Failure Unit) :
    Serves (serve (.connect host port) webPort outcome) webPort outcome := by
  cases outcome with
  | ok up => exact ⟨rfl, rfl, rfl, settled_precedes _ _ _ nofun nofun, rfl, rfl⟩
  | error cause => exact ⟨rfl, rfl, rfl, settled_precedes _ _ _ nofun nofun, rfl, rfl⟩

variable {trace : Trace} (warnings : List LogEntry)

theorem Idle.warned {cause : Failure} (idle : Idle trace cause) :
    Idle (trace.warned warnings) cause := by
  constructor
  · rw [Trace.calls_warned, idle.calls]
  · rw [Trace.served_warned, idle.served]
  · rw [Trace.closes_warned, idle.closes]
  · rw [Trace.writes_warned, idle.writes]
  · rw [Trace.outcome_warned, idle.outcome]

theorem Evaluates.warned {call : NodeCall} {output : Except Failure Text}
    (evaluates : Evaluates trace call output) :
    Evaluates (trace.warned warnings) call output := by
  constructor
  · rw [Trace.calls_warned, evaluates.calls]
  · exact evaluates.settles.warned nofun warnings
  · rw [Trace.closes_warned, evaluates.closes]
  · exact evaluates.closesSettled.warned nofun warnings
  · rw [Trace.served_warned, evaluates.served]
  · rw [Trace.writes_warned, evaluates.writes]
  · rw [Trace.outcome_warned, evaluates.outcome]

theorem Serves.warned {webPort : Int} {outcome : Except Failure Unit}
    (serves : Serves trace webPort outcome) : Serves (trace.warned warnings) webPort outcome := by
  constructor
  · rw [Trace.calls_warned, serves.calls]
  · rw [Trace.served_warned, serves.served]
  · rw [Trace.closes_warned, serves.closes]
  · exact serves.closesSettled.warned nofun warnings
  · rw [Trace.writes_warned, serves.writes]
  · rw [Trace.outcome_warned, serves.outcome]

structure Disciplined (outside : Outside) (config : Config) (arguments : List Text)
    (trace : Trace) : Prop where
  connects : LacksFile arguments ∧ trace.connects = [] ∨
    ¬ LacksFile arguments ∧ trace.connects = [(config.host, config.port)]
  missing : LacksFile arguments → Idle trace missingFile
  unconnected : ¬ LacksFile arguments → ∀ cause,
    outside.connect config.host config.port = .error cause → Idle trace cause
  web : Asks arguments .web → outside.connect config.host config.port = .ok () →
    Serves trace config.webPort outside.serve
  inline : ∀ code, Asks arguments (.inline code) →
    outside.connect config.host config.port = .ok () →
    Evaluates trace (.run code) (outside.reply (.run code))
  file : ∀ fileName, Asks arguments (.file fileName) →
    outside.connect config.host config.port = .ok () →
    Evaluates trace (.eval fileName) (outside.reply (.eval fileName))

theorem Asks.not_lacks {chosen : Mode} (asks : Asks arguments chosen) : ¬ LacksFile arguments := by
  intro lacks
  have taken := mode_eq_ok_iff.mpr asks
  rw [mode_eq_error_iff.mpr ⟨lacks, rfl⟩] at taken
  cases taken

theorem run_asked {chosen : Mode} (asks : Asks arguments chosen) :
    let opened := Action.connect config.host config.port
    (∃ cause, run outside config arguments = { actions := [opened], outcome := .error cause }) ∨
    (∃ served, run outside config arguments = serve opened config.webPort served) ∨
    ∃ call output, run outside config arguments = evaluate opened call output := by
  cases connected : outside.connect config.host config.port with
  | error cause => exact .inl ⟨cause, run_unconnected asks connected⟩
  | ok opened =>
      cases chosen with
      | web => exact .inr (.inl ⟨_, run_connected asks connected⟩)
      | inline code => exact .inr (.inr ⟨_, _, run_connected asks connected⟩)
      | file fileName => exact .inr (.inr ⟨_, _, run_connected asks connected⟩)

theorem run_connects {chosen : Mode} (asks : Asks arguments chosen) :
    (run outside config arguments).connects = [(config.host, config.port)] := by
  rcases run_asked asks with ⟨cause, shape⟩ | ⟨served, shape⟩ | ⟨call, output, shape⟩
  · rw [shape]
    rfl
  · rw [shape]
    cases served <;> rfl
  · rw [shape]
    cases output <;> rfl

theorem run_warnings (outside : Outside) (config : Config) (arguments : List Text) :
    (run outside config arguments).warnings = [] := by
  rcases asks_or_lacks arguments with ⟨chosen, asks⟩ | lacks
  · rcases run_asked asks with ⟨cause, shape⟩ | ⟨served, shape⟩ | ⟨call, output, shape⟩
    · rw [shape]
      rfl
    · rw [shape]
      cases served <;> rfl
    · rw [shape]
      cases output <;> rfl
  · rw [run_missing lacks]
    rfl

theorem run_disciplined (outside : Outside) (config : Config) (arguments : List Text) :
    Disciplined outside config arguments (run outside config arguments) := by
  constructor
  · rcases asks_or_lacks arguments with ⟨chosen, asks⟩ | lacks
    · exact .inr ⟨asks.not_lacks, run_connects asks⟩
    · refine .inl ⟨lacks, ?_⟩
      rw [run_missing lacks]
      rfl
  · intro lacks
    rw [run_missing lacks]
    exact ⟨rfl, rfl, rfl, rfl, rfl⟩
  · intro notLacking cause refused
    obtain ⟨chosen, asks⟩ := (asks_or_lacks arguments).resolve_right notLacking
    rw [run_unconnected asks refused]
    exact ⟨rfl, rfl, rfl, rfl, rfl⟩
  · intro asks opened
    rw [run_connected asks opened]
    exact serve_serves ..
  · intro code asks opened
    rw [run_connected asks opened]
    exact evaluate_evaluates ..
  · intro fileName asks opened
    rw [run_connected asks opened]
    exact evaluate_evaluates ..

theorem Disciplined.warned (disciplined : Disciplined outside config arguments trace) :
    Disciplined outside config arguments (trace.warned warnings) := by
  constructor
  · rw [Trace.connects_warned]
    exact disciplined.connects
  · exact fun lacks => (disciplined.missing lacks).warned warnings
  · exact fun asks cause refused => (disciplined.unconnected asks cause refused).warned warnings
  · exact fun asks opened => (disciplined.web asks opened).warned warnings
  · exact fun code asks opened => (disciplined.inline code asks opened).warned warnings
  · exact fun fileName asks opened => (disciplined.file fileName asks opened).warned warnings

end CommandLine

end NodeConsole
