import NodeConsole.Config.Check

/-!
What the checks of configurations and settings accept, and what they say about the rest. A value is
read as settings just when it is an object that writes them; a configuration is told of exactly the
fields that are out of place.
-/

namespace NodeConsole

theorem Text.isEmpty_iff {text : Text} : text.isEmpty = true ↔ text = "" := by
  have empty : (Text.ofString "") = ⟨[]⟩ := rfl
  cases text with
  | mk units => simp [Text.isEmpty, empty]

theorem Number.toInt?_eq_some_iff {number : Number} {value : Int} :
    number.toInt? = some value ↔ number = .ofInt value := by
  cases number with
  | nan => simp [Number.toInt?, Number.ofInt]
  | infinite negative => simp [Number.toInt?, Number.ofInt]
  | finite ratio =>
      simp only [Number.toInt?, Number.ofInt, Number.finite.injEq]
      constructor
      · intro whole
        split at whole
        next integral =>
          rw [← Option.some.inj whole]
          exact Rat.ext rfl integral
        next => cases whole
      · intro same
        subst same
        simp

namespace Json.Fields

theorem mem_names {fields : Fields} {name : Text} :
    name ∈ names fields ↔ name ∈ fields.map (·.1) := by
  simp only [names, List.mem_append, List.mem_mergeSort, List.mem_filter]
  cases index? name <;> simp

end Json.Fields

namespace Config

open Json (Value)

def IsPort (port : Int) : Prop :=
  0 ≤ port ∧ port ≤ 65535

structure Valid (config : Config) : Prop where
  host : config.host ≠ ""
  port : IsPort config.port
  webPort : IsPort config.webPort

theorem hostProblems_eq_nil_iff {value : Value} :
    hostProblems value = [] ↔ ∃ text : Text, value = .string text ∧ text ≠ "" := by
  cases value with
  | string text => simp [hostProblems, Text.isEmpty_iff]
  | _ => simp [hostProblems]

theorem portProblems_ofInt (port : Int) :
    portProblems (.ofInt port) =
      (if port < 0 then [.belowRange] else []) ++
        (if 65535 < port then [.aboveRange] else []) := by
  have below : ((port : Rat) < ((0 : Int) : Rat)) ↔ port < 0 := Rat.intCast_lt_intCast
  have above : ((greatestPort : Int) : Rat) < (port : Rat) ↔ 65535 < port := Rat.intCast_lt_intCast
  simp only [Value.ofInt, Number.ofInt, portProblems, Number.isInteger, isBelow, isAbove, below,
    above, Rat.den_intCast, decide_eq_true_eq]
  rfl

theorem portProblems_ofInt_eq_nil_iff {port : Int} :
    portProblems (.ofInt port) = [] ↔ IsPort port := by
  simp [portProblems_ofInt, IsPort]

theorem portProblems_eq_nil_iff {value : Value} :
    portProblems value = [] ↔ ∃ port : Int, value = .ofInt port ∧ IsPort port := by
  constructor
  · intro clean
    cases value with
    | number number =>
        cases whole : number.toInt? with
        | some port =>
            obtain rfl := Number.toInt?_eq_some_iff.mp whole
            exact ⟨port, rfl, portProblems_ofInt_eq_nil_iff.mp clean⟩
        | none =>
            cases number with
            | nan => simp [portProblems] at clean
            | infinite negative => simp [portProblems, Number.isInteger] at clean
            | finite ratio =>
                have broken : ratio.den ≠ 1 := by
                  intro integral
                  simp [Number.toInt?, integral] at whole
                simp [portProblems, Number.isInteger, broken] at clean
    | _ => simp [portProblems] at clean
  · rintro ⟨port, rfl, usable⟩
    exact portProblems_ofInt_eq_nil_iff.mpr usable

theorem unknownNames_eq_nil_iff {fields : Json.Fields} :
    unknownNames fields = [] ↔
      ∀ field ∈ fields, field.1 ∈ (["host", "port", "webPort"] : List Text) := by
  have known : fieldNames.map Text.ofString = (["host", "port", "webPort"] : List Text) := rfl
  simp only [unknownNames, List.filter_eq_nil_iff, Json.Fields.mem_names, List.mem_map,
    Bool.not_eq_true', Bool.not_eq_false, List.contains_iff_mem, known]
  constructor
  · intro all field listed
    exact all field.1 ⟨field, listed, rfl⟩
  · rintro all name ⟨field, listed, rfl⟩
    exact all field listed

theorem optionalIssues_eq_nil_iff {name : String} {value : Value} :
    optionalIssues name value = [] ↔ value = .absent ∨ fieldProblems name value = [] := by
  cases value <;> simp [optionalIssues, fieldIssues]

theorem settingsIssues_eq_nil_iff {value : Value} :
    settingsIssues value = [] ↔
      (∃ fields, value = .object fields ∧
        ∀ field ∈ fields, field.1 ∈ (["host", "port", "webPort"] : List Text)) ∧
      (value.field "host" = .absent ∨ hostProblems (value.field "host") = []) ∧
      (value.field "port" = .absent ∨ portProblems (value.field "port") = []) ∧
      (value.field "webPort" = .absent ∨ portProblems (value.field "webPort") = []) := by
  cases value with
  | object fields =>
      have unknown : (if (unknownNames fields).isEmpty then ([] : List Issue)
            else [{ field := none, problem := .unknownFields (unknownNames fields) }]) = [] ↔
          unknownNames fields = [] := by
        cases unknownNames fields <;> simp
      simp only [settingsIssues, fieldNames, List.flatMap_cons, List.flatMap_nil, List.append_nil,
        List.append_eq_nil_iff, optionalIssues_eq_nil_iff, unknown, unknownNames_eq_nil_iff,
        Value.object.injEq, exists_eq_left']
      rw [and_comm]
      rfl
  | _ => simp [settingsIssues]

end Config

namespace Settings

open Json (Value)

structure Valid (settings : Settings) : Prop where
  host : settings.host ≠ some ""
  port : ∀ port ∈ settings.port, Config.IsPort port
  webPort : ∀ port ∈ settings.webPort, Config.IsPort port

/-- A value that is these settings: it has the fields that are set, and no others. -/
structure WrittenAs (settings : Settings) (value : Value) : Prop where
  object : ∃ fields, value = .object fields ∧
    ∀ field ∈ fields, field.1 ∈ (["host", "port", "webPort"] : List Text)
  host : value.field "host" = (settings.host.map .string).getD .absent
  port : value.field "port" = (settings.port.map .ofInt).getD .absent
  webPort : value.field "webPort" = (settings.webPort.map .ofInt).getD .absent
  valid : settings.Valid

theorem integer?_ofInt (port : Int) : integer? (.ofInt port) = some port :=
  Number.toInt?_eq_some_iff.mpr rfl

theorem text?_iff {value : Value} {host : Option Text} :
    (value = .absent ∨ Config.hostProblems value = []) ∧ host = text? value ↔
      value = (host.map .string).getD .absent ∧ host ≠ some "" := by
  rw [Config.hostProblems_eq_nil_iff]
  constructor
  · rintro ⟨rfl | ⟨text, rfl, filled⟩, rfl⟩
    · exact ⟨rfl, nofun⟩
    · exact ⟨rfl, fun empty => filled (Option.some.inj empty)⟩
  · rintro ⟨rfl, filled⟩
    cases host with
    | none => exact ⟨.inl rfl, rfl⟩
    | some text => exact ⟨.inr ⟨text, rfl, fun empty => filled (congrArg some empty)⟩, rfl⟩

theorem integer?_iff {value : Value} {port : Option Int} :
    (value = .absent ∨ Config.portProblems value = []) ∧ port = integer? value ↔
      value = (port.map .ofInt).getD .absent ∧ ∀ given ∈ port, Config.IsPort given := by
  rw [Config.portProblems_eq_nil_iff]
  constructor
  · rintro ⟨rfl | ⟨given, rfl, usable⟩, rfl⟩
    · exact ⟨rfl, nofun⟩
    · rw [integer?_ofInt]
      exact ⟨rfl, fun other same => Option.some.inj same ▸ usable⟩
  · rintro ⟨rfl, usable⟩
    cases port with
    | none => exact ⟨.inl rfl, rfl⟩
    | some given => exact ⟨.inr ⟨given, rfl, usable given rfl⟩, (integer?_ofInt given).symm⟩

theorem ofValue_eq_ok_iff {value : Value} {settings : Settings} :
    ofValue value = .ok settings ↔ settings.WrittenAs value := by
  have accepted : ofValue value = .ok settings ↔ Config.settingsIssues value = [] ∧
      settings = {
        host := text? (value.field "host")
        port := integer? (value.field "port")
        webPort := integer? (value.field "webPort") } := by
    simp only [ofValue]
    cases Config.settingsIssues value <;> simp [eq_comm]
  obtain ⟨host, port, webPort⟩ := settings
  rw [accepted, Config.settingsIssues_eq_nil_iff, mk.injEq]
  constructor
  · rintro ⟨⟨object, hostFine, portFine, webPortFine⟩, hostRead, portRead, webPortRead⟩
    obtain ⟨hostWritten, filled⟩ := text?_iff.mp ⟨hostFine, hostRead⟩
    obtain ⟨portWritten, usable⟩ := integer?_iff.mp ⟨portFine, portRead⟩
    obtain ⟨webPortWritten, webUsable⟩ := integer?_iff.mp ⟨webPortFine, webPortRead⟩
    exact ⟨object, hostWritten, portWritten, webPortWritten, ⟨filled, usable, webUsable⟩⟩
  · rintro ⟨object, hostWritten, portWritten, webPortWritten, valid⟩
    obtain ⟨hostFine, hostRead⟩ := text?_iff.mpr ⟨hostWritten, valid.host⟩
    obtain ⟨portFine, portRead⟩ := integer?_iff.mpr ⟨portWritten, valid.port⟩
    obtain ⟨webPortFine, webPortRead⟩ := integer?_iff.mpr ⟨webPortWritten, valid.webPort⟩
    exact ⟨⟨object, hostFine, portFine, webPortFine⟩, hostRead, portRead, webPortRead⟩

theorem ofValue_eq_error_iff {value : Value} {issues : List Config.Issue} :
    ofValue value = .error issues ↔
      (∀ settings : Settings, ¬ settings.WrittenAs value) ∧
        issues = Config.settingsIssues value := by
  have reported (issues : List Config.Issue) (refused : ofValue value = .error issues) :
      issues = Config.settingsIssues value := by
    simp only [ofValue] at refused
    split at refused
    · cases refused
    · exact (Except.error.inj refused).symm
  constructor
  · intro refused
    refine ⟨?_, reported issues refused⟩
    intro settings written
    rw [ofValue_eq_ok_iff.mpr written] at refused
    cases refused
  · rintro ⟨unwritten, rfl⟩
    cases read : ofValue value with
    | ok settings => exact (unwritten settings (ofValue_eq_ok_iff.mp read)).elim
    | error issues => rw [reported issues read]

end Settings

namespace Config

theorem standard_valid : standard.Valid :=
  ⟨by decide, by unfold IsPort; decide, by unfold IsPort; decide⟩

theorem Valid.override {config : Config} {settings : Settings} (valid : config.Valid)
    (given : settings.Valid) : (config.override settings).Valid := by
  obtain ⟨host, port, webPort⟩ := settings
  refine ⟨?_, ?_, ?_⟩
  · cases host with
    | none => exact valid.host
    | some text => exact fun empty => given.host (congrArg some empty)
  · cases port with
    | none => exact valid.port
    | some port => exact given.port port rfl
  · cases webPort with
    | none => exact valid.webPort
    | some port => exact given.webPort port rfl

def rangeMessages (field : String) (port : Int) : List Text :=
  if port < 0 then
    ["Invalid " ++ field ++ ": " ++ ("Number must be greater than or equal to 0" : Text)]
  else if 65535 < port then
    ["Invalid " ++ field ++ ": " ++ ("Number must be less than or equal to 65535" : Text)]
  else []

theorem rangeMessages_eq_nil_iff {field : String} {port : Int} :
    rangeMessages field port = [] ↔ IsPort port := by
  unfold rangeMessages IsPort
  split
  next below => simp; omega
  next =>
    split
    next above => simp; omega
    next => simp; omega

theorem portProblems_range (port : Int) :
    portProblems (.ofInt port) =
      if port < 0 then [.belowRange] else if 65535 < port then [.aboveRange] else [] := by
  rw [portProblems_ofInt]
  by_cases below : port < 0
  · have within : ¬ 65535 < port := by omega
    simp [below, within]
  · simp [below]

theorem hostMessages_eq (host : Text) :
    (fieldIssues "host" (.string host)).map issueMessage =
      if host = "" then
        [Text.ofString "Invalid host: String must contain at least 1 character(s)"] else [] := by
  have problems : fieldProblems "host" (.string host) =
      if host = "" then [.emptyText] else [] := by
    rw [fieldProblems, if_pos rfl]
    simp only [hostProblems, Text.isEmpty_iff]
  rw [fieldIssues, problems]
  split
  · rfl
  · rfl

theorem portMessages_eq (field : String) (other : field ≠ "host") (port : Int) :
    (fieldIssues field (.ofInt port)).map issueMessage = rangeMessages field port := by
  rw [fieldIssues, fieldProblems, if_neg other, portProblems_range, rangeMessages]
  split
  · rfl
  · split
    · rfl
    · rfl

theorem validate_toValue (config : Config) :
    validate config.toValue =
      (if config.host = "" then
        [Text.ofString "Invalid host: String must contain at least 1 character(s)"] else []) ++
        (rangeMessages "port" config.port ++ rangeMessages "webPort" config.webPort) := by
  obtain ⟨host, port, webPort⟩ := config
  have hostField : (toValue ⟨host, port, webPort⟩).field "host" = .string host := rfl
  have portField : (toValue ⟨host, port, webPort⟩).field "port" = .ofInt port := rfl
  have webPortField : (toValue ⟨host, port, webPort⟩).field "webPort" = .ofInt webPort := rfl
  have issued : issues (toValue ⟨host, port, webPort⟩) =
      fieldIssues "host" (.string host) ++
        (fieldIssues "port" (.ofInt port) ++ fieldIssues "webPort" (.ofInt webPort)) := by
    rw [← hostField, ← portField, ← webPortField]
    simp [issues, toValue, fieldNames]
  rw [validate, issued, List.map_append, List.map_append, hostMessages_eq,
    portMessages_eq "port" (by decide), portMessages_eq "webPort" (by decide)]

theorem validate_eq_nil_iff {config : Config} : validate config.toValue = [] ↔ config.Valid := by
  have host : (if config.host = "" then
      [Text.ofString "Invalid host: String must contain at least 1 character(s)"] else []) = [] ↔
      config.host ≠ "" := by
    simp
  rw [validate_toValue, List.append_eq_nil_iff, List.append_eq_nil_iff, host,
    rangeMessages_eq_nil_iff, rangeMessages_eq_nil_iff]
  exact ⟨fun ⟨filled, port, webPort⟩ => ⟨filled, port, webPort⟩,
    fun valid => ⟨valid.host, valid.port, valid.webPort⟩⟩

end Config

end NodeConsole
