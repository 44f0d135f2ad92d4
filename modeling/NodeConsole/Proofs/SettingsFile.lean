import NodeConsole.Proofs.DocumentReading
import NodeConsole.Proofs.Fields
import NodeConsole.Proofs.LoadFailure
import NodeConsole.Proofs.TextCoding

/-!
Which texts of a file give settings, and what is said about the others. A text gives settings just
when it writes a document that states them, in whatever form: the last member of a name counts, and
numbers are rounded. A document that states none is reported field by field.
-/

namespace NodeConsole.Config

open Json (Document Fields Value Writes)

def Fits (name : String) (value : Value) : Prop :=
  if name = "host" then ∃ text : Text, value = .string text ∧ text ≠ ""
  else ∃ port : Int, value = .ofInt port ∧ IsPort port

/-- A document that states these settings: an object without other members, which gives every field
that is set. -/
structure States (document : Document) (settings : Settings) : Prop where
  object : ∃ members, document = .object members ∧
    ∀ member ∈ members, member.1 ∈ (["host", "port", "webPort"] : List Text)
  host : document.field? "host" = settings.host.map .string
  port : document.field? "port" = settings.port.map .ofInt
  webPort : document.field? "webPort" = settings.webPort.map .ofInt
  valid : settings.Valid

/-- The entries about one field: there are some just when it has a value that does not fit, and they
all name the field. -/
structure Lists (name : String) (given : Option Value) (entries : List Text) : Prop where
  clean_iff : entries = [] ↔ ∀ value ∈ given, Fits name value
  named : ∀ entry ∈ entries, ∃ said : Text, entry = name ++ ": " ++ said

inductive ListsUnknown (path : Text) (members : List (Text × Document)) : List Text → Prop
  | none (known : ∀ member ∈ members, member.1 ∈ (["host", "port", "webPort"] : List Text)) :
      ListsUnknown path members []
  | some {names : List Text} (filled : names ≠ []) (once : names.Nodup)
      (mem_iff : ∀ name, name ∈ names ↔
        name ∈ members.map (·.1) ∧ name ∉ (["host", "port", "webPort"] : List Text)) :
      ListsUnknown path members [path ++ ": " ++ ("Unrecognized key(s) in object: " ++
        Text.join ", " (names.map fun name => "'" ++ name ++ "'"))]

/-- What is said about a document: that it is no object, or else what is out of place in it, field
by field and the unknown members last. -/
inductive Reports (path : Text) (document : Document) : List Text → Prop
  | noObject (other : ∀ members, document ≠ .object members) :
      Reports path document
        [path ++ ": " ++ ("Expected object, received " ++ document.value.kind.name : String)]
  | fields {members : List (Text × Document)} {host port webPort unknown : List Text}
      (object : document = .object members)
      (hostListed : Lists "host" (document.field? "host") host)
      (portListed : Lists "port" (document.field? "port") port)
      (webPortListed : Lists "webPort" (document.field? "webPort") webPort)
      (unknownListed : ListsUnknown path members unknown) :
      Reports path document (host ++ (port ++ (webPort ++ unknown)))

variable {system : FileSystem} {path : Text} {content : List UInt8} {document : Document}
variable {members : List (Text × Document)} {settings : Settings} {name : String}

theorem fieldIssues_eq_nil_iff {value : Value} : fieldIssues name value = [] ↔ Fits name value := by
  rw [fieldIssues, List.map_eq_nil_iff, fieldProblems, Fits]
  split
  next host => exact hostProblems_eq_nil_iff
  next port => exact portProblems_eq_nil_iff

theorem known_fieldsFrom :
    (∀ field ∈ Document.fieldsFrom [] members,
      field.1 ∈ (["host", "port", "webPort"] : List Text)) ↔
      ∀ member ∈ members, member.1 ∈ (["host", "port", "webPort"] : List Text) := by
  have named {α : Type} (entries : List (Text × α)) (names : List Text) :
      (∀ entry ∈ entries, entry.1 ∈ names) ↔ ∀ name ∈ entries.map (·.1), name ∈ names :=
    List.forall_mem_map.symm
  simp only [named, Document.names_fieldsFrom]

theorem getD_absent_inj {first second : Option Value} (present : first ≠ some .absent)
    (alsoPresent : second ≠ some .absent) :
    first.getD .absent = second.getD .absent ↔ first = second := by
  cases first with
  | none =>
      cases second with
      | none => simp
      | some value => exact ⟨fun same => (alsoPresent (congrArg some same.symm)).elim, nofun⟩
  | some value =>
      cases second with
      | none => exact ⟨fun same => (present (congrArg some same)).elim, nofun⟩
      | some value => simp

theorem field_value_iff {α : Type} {given : Option α} {write : α → Value}
    (present : ∀ value, write value ≠ .absent) :
    document.value.field name = (given.map write).getD .absent ↔
      document.field? name = given.map write := by
  rw [Document.field_value]
  refine getD_absent_inj (document.field?_ne_absent name) ?_
  intro absent
  obtain ⟨value, _, written⟩ := Option.map_eq_some_iff.mp absent
  exact present value written

theorem writtenAs_value_iff : settings.WrittenAs document.value ↔ States document settings := by
  have object : (∃ fields, document.value = .object fields ∧
        ∀ field ∈ fields, field.1 ∈ (["host", "port", "webPort"] : List Text)) ↔
      ∃ members, document = .object members ∧
        ∀ member ∈ members, member.1 ∈ (["host", "port", "webPort"] : List Text) := by
    cases document with
    | object members =>
        simp only [Document.value, Value.object.injEq, Document.object.injEq, exists_eq_left',
          known_fieldsFrom]
    | _ => simp [Document.value]
  have host : document.value.field "host" = (settings.host.map .string).getD .absent ↔
      document.field? "host" = settings.host.map .string := field_value_iff nofun
  have port (name : String) (given : Option Int) :
      document.value.field name = (given.map .ofInt).getD .absent ↔
        document.field? name = given.map .ofInt := field_value_iff nofun
  constructor
  · rintro ⟨written, hostWritten, portWritten, webPortWritten, valid⟩
    exact ⟨object.mp written, host.mp hostWritten, (port _ _).mp portWritten,
      (port _ _).mp webPortWritten, valid⟩
  · rintro ⟨stated, hostStated, portStated, webPortStated, valid⟩
    exact ⟨object.mpr stated, host.mpr hostStated, (port _ _).mpr portStated,
      (port _ _).mpr webPortStated, valid⟩

section Loading

variable (leads : system.entry? path = some (.file content))

include leads

theorem loadFile_writes (writes : Writes (Utf8.toStringLossy content) document) :
    loadFile system path = .ok settings ↔ settings.WrittenAs document.value := by
  have read : Value.ofText? (Utf8.toStringLossy content) = some document.value :=
    Value.ofText?_eq_some_iff.mpr ⟨document, writes, rfl⟩
  rw [loadFile_eq_ok_iff]
  constructor
  · rintro ⟨other, value, alsoLeads, alsoRead, written⟩
    cases leads.symm.trans alsoLeads
    cases read.symm.trans alsoRead
    exact written
  · intro written
    exact ⟨content, document.value, leads, read, written⟩

theorem holds_iff :
    Holds system path settings ↔
      ∃ document, Writes (Utf8.toStringLossy content) document ∧ States document settings := by
  constructor
  · rintro ⟨other, value, alsoLeads, read, written⟩
    cases leads.symm.trans alsoLeads
    obtain ⟨document, writes, rfl⟩ := Value.ofText?_eq_some_iff.mp read
    exact ⟨document, writes, writtenAs_value_iff.mp written⟩
  · rintro ⟨document, writes, states⟩
    rw [← loadFile_eq_ok_iff, loadFile_writes leads writes]
    exact writtenAs_value_iff.mpr states

theorem malformed_iff {message : Text} :
    loadFile system path = .error (.malformedJson message) ↔
      message = system.complaint (Utf8.toStringLossy content) ∧
        ∀ document, ¬ Writes (Utf8.toStringLossy content) document := by
  rw [loadFile_eq_error_iff]
  constructor
  · intro fault
    cases fault with
    | malformed alsoLeads unread =>
        cases leads.symm.trans alsoLeads
        refine ⟨rfl, ?_⟩
        intro document writes
        rw [Value.ofText?_eq_some_iff.mpr ⟨document, writes, rfl⟩] at unread
        cases unread
  · rintro ⟨rfl, none⟩
    refine .malformed leads ?_
    rw [Option.eq_none_iff_forall_ne_some]
    intro value read
    obtain ⟨document, writes, _⟩ := Value.ofText?_eq_some_iff.mp read
    exact none document writes

theorem loadFile_misshapen (writes : Writes (Utf8.toStringLossy content) document)
    (unstated : ∀ settings, ¬ States document settings) :
    loadFile system path =
      .error (.config ((settingsIssues document.value).map (fileMessage path))) := by
  rw [loadFile_eq_error_iff]
  refine .misshapen leads (Value.ofText?_eq_some_iff.mpr ⟨document, writes, rfl⟩) ?_
  intro settings written
  exact unstated settings (writtenAs_value_iff.mp written)

end Loading

theorem optionalIssues_present {value : Value} (present : value ≠ .absent) :
    optionalIssues name value = fieldIssues name value := by
  cases value with
  | absent => exact (present rfl).elim
  | _ => rfl

theorem lists_optionalIssues {given : Option Value} (present : given ≠ some .absent) :
    Lists name given ((optionalIssues name (given.getD .absent)).map (fileMessage path)) := by
  cases given with
  | none => exact ⟨⟨fun _ => nofun, fun _ => rfl⟩, nofun⟩
  | some value =>
      rw [Option.getD_some, optionalIssues_present fun same => present (congrArg some same)]
      constructor
      · simp [fieldIssues_eq_nil_iff]
      · intro entry listed
        obtain ⟨issue, issued, rfl⟩ := List.mem_map.mp listed
        obtain ⟨problem, _, rfl⟩ := List.mem_map.mp issued
        exact ⟨problem.message, rfl⟩

theorem mem_unknownNames {name : Text} :
    name ∈ unknownNames (Document.fieldsFrom [] members) ↔
      name ∈ members.map (·.1) ∧ name ∉ (["host", "port", "webPort"] : List Text) := by
  have known : fieldNames.map Text.ofString = (["host", "port", "webPort"] : List Text) := rfl
  rw [unknownNames, List.mem_filter, Fields.mem_names, Document.names_fieldsFrom, known,
    Bool.not_eq_true', List.contains_eq_mem, decide_eq_false_iff_not]

def unknownIssues (names : List Text) : List Issue :=
  if names.isEmpty then [] else [{ field := none, problem := .unknownFields names }]

theorem listsUnknown_unknownIssues :
    ListsUnknown path members
      ((unknownIssues (unknownNames (Document.fieldsFrom [] members))).map (fileMessage path)) := by
  by_cases none : unknownNames (Document.fieldsFrom [] members) = []
  · rw [none]
    exact .none (known_fieldsFrom.mp (unknownNames_eq_nil_iff.mp none))
  · rw [unknownIssues, if_neg (mt List.isEmpty_iff.mp none)]
    exact .some none ((Fields.nodup_names Document.nodup_fieldsFrom).filter _)
      fun _ => mem_unknownNames

theorem settingsIssues_object (fields : Fields) :
    settingsIssues (.object fields) =
      optionalIssues "host" ((Value.object fields).field "host") ++
        (optionalIssues "port" ((Value.object fields).field "port") ++
          (optionalIssues "webPort" ((Value.object fields).field "webPort") ++
            unknownIssues (unknownNames fields))) := by
  simp only [settingsIssues, fieldNames, List.flatMap_cons, List.flatMap_nil, List.append_nil,
    List.append_assoc, unknownIssues]

theorem kind_ne_absent {value : Value} (present : value ≠ .absent) : value.kind ≠ .absent := by
  cases value with
  | absent => exact (present rfl).elim
  | number number => cases number <;> nofun
  | _ => nofun

theorem reports_noObject (other : ∀ members, document ≠ .object members) :
    Reports path document ((settingsIssues document.value).map (fileMessage path)) := by
  have issued : settingsIssues document.value = [notAnObject document.value] := by
    cases document with
    | object members => exact (other members rfl).elim
    | _ => simp only [Document.value, settingsIssues]
  have said : (notAnObject document.value).problem.message =
      ("Expected object, received " ++ document.value.kind.name : String) := by
    rw [notAnObject, Problem.message, Shape.kindMessage,
      if_neg (kind_ne_absent document.value_ne_absent)]
    rfl
  -- a document is never absent, so the message is not the one about a value that is missing
  rw [issued, List.map_singleton, fileMessage, said]
  exact .noObject other

theorem reports_settingsIssues (document : Document) :
    Reports path document ((settingsIssues document.value).map (fileMessage path)) := by
  have listed (name : String) : Lists name (document.field? name)
      ((optionalIssues name (document.value.field name)).map (fileMessage path)) := by
    rw [Document.field_value]
    exact lists_optionalIssues (document.field?_ne_absent name)
  cases document with
  | object members =>
      rw [Document.value] at listed ⊢
      rw [settingsIssues_object, List.map_append, List.map_append, List.map_append]
      exact .fields rfl (listed "host") (listed "port") (listed "webPort")
        listsUnknown_unknownIssues
  | _ => exact reports_noObject nofun

theorem exists_writtenAs_iff {value : Value} :
    (∃ settings : Settings, settings.WrittenAs value) ↔ settingsIssues value = [] := by
  simp only [← Settings.ofValue_eq_ok_iff, Settings.ofValue]
  cases settingsIssues value with
  | nil => simp
  | cons issue rest => simp

def written (config : Config) : List (Text × Document) :=
  [("host", .string config.host), ("port", .number config.port),
    ("webPort", .number config.webPort)]

theorem round_port {port : Int} (usable : IsPort port) :
    Binary64.round (port : Rat) = .ofInt port := by
  refine Binary64.round_intCast ?_
  obtain ⟨lower, upper⟩ := usable
  omega

theorem states_written {config : Config} (valid : config.Valid)
    (order : members.Perm config.written) :
    States (.object members) {
      host := some config.host, port := some config.port, webPort := some config.webPort } := by
  have once : (members.map (·.1)).Nodup := by
    have names : config.written.map (·.1) = (["host", "port", "webPort"] : List Text) := rfl
    rw [(order.map _).nodup_iff, names]
    decide
  have field (name : String) (member : Document)
      (listed : (Text.ofString name, member) ∈ config.written) :
      (Document.object members).field? name = some member.value := by
    have last := (Json.last?_eq_some_iff once).mpr (order.mem_iff.mpr listed)
    rw [Document.field?, last, Option.map_some]
  refine ⟨⟨members, rfl, ?_⟩, ?_, ?_, ?_, ?_⟩
  · intro member listed
    have named := List.mem_map_of_mem (f := (·.1)) (order.mem_iff.mp listed)
    exact named
  · exact field "host" _ (.head _)
  · rw [field "port" _ (.tail _ (.head _)), Document.value, round_port valid.port]
    rfl
  · rw [field "webPort" _ (.tail _ (.tail _ (.head _))), Document.value, round_port valid.webPort]
    rfl
  · refine ⟨?_, ?_, ?_⟩
    · intro empty
      exact valid.host (Option.some.inj empty)
    · rintro port ⟨⟩
      exact valid.port
    · rintro port ⟨⟩
      exact valid.webPort

theorem gives_nothing : Environment.Gives [] {} := by
  have unset (name : String) : Environment.GivesPort [] name none :=
    .unset fun _ sets => nomatch sets.1
  refine ⟨?_, unset _, unset _⟩
  intro text
  constructor
  · nofun
  · rintro ⟨sets, _⟩
    cases sets

/-- A file loads just when its text writes a document that states settings, and these are what it
gives. Any other document is reported, and any other text is malformed. A configuration that was
loaded is loaded again from a file that writes its fields, in whatever order and form. -/
theorem loadFile_reads_documents (leads : system.entry? path = some (.file content)) :
    (∀ settings, loadFile system path = .ok settings ↔
      ∃ document, Writes (Utf8.toStringLossy content) document ∧ States document settings) ∧
    (∀ message, loadFile system path = .error (.malformedJson message) ↔
      message = system.complaint (Utf8.toStringLossy content) ∧
        ∀ document, ¬ Writes (Utf8.toStringLossy content) document) ∧
    (∀ document, Writes (Utf8.toStringLossy content) document →
      (∀ settings, ¬ States document settings) →
        ∃ entries, loadFile system path = .error (.config entries) ∧ entries ≠ [] ∧
          Reports path document entries) ∧
    ∀ source environment options config,
      (load source environment options).result = .ok config →
      ∀ members : List (Text × Document),
        members.Perm [("host", .string config.host), ("port", .number config.port),
          ("webPort", .number config.webPort)] →
        Writes (Utf8.toStringLossy content) (.object members) →
        ∀ (asking : LoadOptions) (given : Text), asking.path = some given → given ≠ "" →
          located system asking given = path →
          (load system [] asking).result = .ok config := by
  refine ⟨?_, fun message => malformed_iff leads, ?_, ?_⟩
  · intro settings
    rw [loadFile_eq_ok_iff, holds_iff leads]
  · intro document writes unstated
    refine ⟨_, loadFile_misshapen leads writes unstated, ?_, reports_settingsIssues document⟩
    rw [ne_eq, List.map_eq_nil_iff, ← exists_writtenAs_iff]
    rintro ⟨settings, written⟩
    exact unstated settings (writtenAs_value_iff.mp written)
  · intro source environment options config loaded members order writes asking given asked filled
      found
    -- whatever was loaded is valid, and that is all the file needs to be read back
    obtain ⟨_, _, _, _, _, valid⟩ := load_eq_ok_iff.mp loaded
    have holds := (holds_iff leads).mpr ⟨_, writes, states_written valid order⟩
    rw [← found] at holds
    exact load_eq_ok_iff.mpr ⟨_, {}, .asked ⟨filled, .inl asked⟩ holds, gives_nothing, rfl, valid⟩

def reorderedText : String :=
  "\x7b \"webPort\":80,\n\"port\": 5e4,\"host\":\"\\u0061/\"\x7d"

def reorderedMembers : List (Text × Document) :=
  [("webPort", .number (80 : Int)), ("port", .number (50000 : Int)), ("host", .string "a/")]

theorem reorderedText_writes : Writes reorderedText (.object reorderedMembers) := by
  have blank := Json.blank_nil
  have space : Json.Blank [' '] := by simp [Json.Blank]
  have line : Json.Blank ['\n'] := by simp [Json.Blank]
  have webPort : Json.Written (.number (80 : Int)) ['8', '0'] := by
    have digits : Json.Digits ['8', '0'] := ⟨List.cons_ne_nil _ _, List.all_eq_true.mp (by decide)⟩
    have value : Decimal.value { whole := ['8', '0'] } = (80 : Int) := by decide +kernel
    exact value ▸ .number (.positive (.digits digits (by decide)) .none .none)
  have port : Json.Written (.number (50000 : Int)) ['5', 'e', '4'] := by
    have first : Json.Digits ['5'] := ⟨List.cons_ne_nil _ _, List.all_eq_true.mp (by decide)⟩
    have power : Json.Digits ['4'] := ⟨List.cons_ne_nil _ _, List.all_eq_true.mp (by decide)⟩
    have value : Decimal.value { whole := ['5'], exponent := 4 } = (50000 : Int) := by
      decide +kernel
    exact value ▸ .number
      (.positive (.digits first (by decide)) .none (.unsigned (by decide) power))
  have host : Json.Written (.string "a/") ['"', '\\', 'u', '0', '0', '6', '1', '/', '"'] := by
    have digits : Json.HexDigits ['0', '0', '6', '1'] := List.all_eq_true.mp (by decide)
    have slash : Json.StringItem (Text.ofChar '/') ['/'] :=
      .plain (by decide) (by decide) (by decide)
    exact .string (.intro (.cons (.code digits) (.cons slash .nil)))
  have webPortMember : Json.MemberWritten "webPort" (.number (80 : Int))
      " \"webPort\":80".toList :=
    .intro space (Json.quoted_plain "webPort" (by decide +kernel)) blank
      (.intro blank webPort blank)
  have portMember : Json.MemberWritten "port" (.number (50000 : Int)) "\n\"port\": 5e4".toList :=
    .intro line (Json.quoted_plain "port" (by decide +kernel)) blank (.intro space port blank)
  have hostMember : Json.MemberWritten "host" (.string "a/") "\"host\":\"\\u0061/\"".toList :=
    .intro blank (Json.quoted_plain "host" (by decide +kernel)) blank (.intro blank host blank)
  have object := Json.Written.object (.cons webPortMember (.cons portMember (.last hostMember)))
  exact .intro blank object blank

def reorderedFile : FileSystem :=
  (FileTree.directory [("work", .directory [
    ("own", .file (Utf8.ofString reorderedText))])]).toSystem "/work" fun _ => "Unexpected JSON"

theorem reorderedFile_leads :
    reorderedFile.entry? "/work/own" = some (.file (Utf8.ofString reorderedText)) := by
  decide +kernel

theorem reorderedFile_writes :
    Writes (Utf8.toStringLossy (Utf8.ofString reorderedText)) (.object reorderedMembers) := by
  rw [Utf8.toStringLossy_ofString]
  exact reorderedText_writes

theorem reordered_file_loads :
    reorderedFile.entry? "/work/own" = some (.file (Utf8.ofString reorderedText)) ∧
      (load reorderedFile [] { path := some "own" }).result =
        .ok { host := "a/", port := 50000, webPort := 80 } := by
  have loaded : (load brokenFirst [("RNODE_HOST", "a/"), ("RNODE_WEB_PORT", "80")]).result =
      .ok { host := "a/", port := 50000, webPort := 80 } := by
    decide +kernel
  have order : reorderedMembers.Perm (written { host := "a/", port := 50000, webPort := 80 }) :=
    List.reverse_perm (written { host := "a/", port := 50000, webPort := 80 })
  refine ⟨reorderedFile_leads, ?_⟩
  exact (loadFile_reads_documents reorderedFile_leads).2.2.2 _ _ _ _ loaded reorderedMembers order
    reorderedFile_writes _ "own" rfl (by decide) (by decide +kernel)

end NodeConsole.Config
