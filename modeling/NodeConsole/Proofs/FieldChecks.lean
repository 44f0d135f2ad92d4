import NodeConsole.Proofs.SettingsFile

/-!
The verdict on a configuration goes field by field: every field has messages of its own, none just
when its value fits. A file is held to the same: it loads just when it has no other fields and, laid
over a valid configuration, gives a valid one.
-/

namespace NodeConsole.Config

open Json (Document Fields Value Writes)

def fieldMessages (name : String) (value : Value) : List Text :=
  (fieldIssues name value).map issueMessage

def fieldMessage (name : String) (said : Text) : Text :=
  "Invalid " ++ name ++ ": " ++ said

variable {fields : Fields} {members : List (Text × Document)} {name : String} {value : Value}

theorem verdict_errors : (verdict value).errors = validate value := by
  rw [verdict]
  split
  next none => rw [validate, none, List.map_nil]
  next some => rfl

theorem verdict_valid_iff : (verdict value).valid = true ↔ validate value = [] := by
  rw [verdict, validate, List.map_eq_nil_iff]
  cases issues value <;> simp

/-- A load keeps a configuration or refuses it by the same verdict. -/
theorem validated_eq_verdict (config : Config) :
    validated config =
      if (verdict config.toValue).valid then .ok config
      else .error (.config (verdict config.toValue).errors) := by
  rw [verdict_errors, validated]
  split
  next clean => rw [if_pos (verdict_valid_iff.mpr clean)]
  next unclean => rw [if_neg fun valid => unclean (verdict_valid_iff.mp valid)]

theorem fieldMessages_eq_nil_iff : fieldMessages name value = [] ↔ Fits name value := by
  rw [fieldMessages, List.map_eq_nil_iff, fieldIssues_eq_nil_iff]

theorem fieldMessages_named {message : Text} (listed : message ∈ fieldMessages name value) :
    ∃ said, message = fieldMessage name said := by
  obtain ⟨issue, issued, rfl⟩ := List.mem_map.mp listed
  obtain ⟨problem, _, rfl⟩ := List.mem_map.mp issued
  exact ⟨problem.message, rfl⟩

theorem validate_object : validate (.object fields) =
    fieldNames.flatMap fun name => fieldMessages name (fields.get name) := by
  rw [validate, issues, List.map_flatMap]
  rfl

theorem validate_object_eq_nil_iff :
    validate (.object fields) = [] ↔ ∀ name ∈ fieldNames, Fits name (fields.get name) := by
  simp only [validate_object, List.flatMap_eq_nil_iff, fieldMessages_eq_nil_iff]

theorem issues_congr {other : Fields}
    (same : ∀ name ∈ fieldNames, other.get name = fields.get name) :
    issues (.object other) = issues (.object fields) := by
  refine List.flatMap_congr ?_
  intro name known
  rw [Value.field, Value.field, same name known]

/-- Putting a fitting value into a field silences that field and changes nothing for others. -/
theorem flatMap_put (fits : Fits name value) (names : List String) :
    (names.flatMap fun other => fieldMessages other ((fields.put name value).get other)) =
      (names.filter (· ≠ name)).flatMap fun other => fieldMessages other (fields.get other) := by
  induction names with
  | nil => rfl
  | cons other rest ih =>
      rw [List.flatMap_cons, ih, Fields.get_put]
      by_cases same : other = name
      · subst same
        rw [if_pos rfl, fieldMessages_eq_nil_iff.mpr fits, List.filter_cons_of_neg (by simp),
          List.nil_append]
      · have apart : Text.ofString name ≠ Text.ofString other :=
          fun spelled => same (Text.ofString_injective spelled).symm
        rw [if_neg apart, List.filter_cons_of_pos (by simp [same]), List.flatMap_cons]

theorem portProblems_fraction {ratio : Rat} (broken : ratio.den ≠ 1) :
    portProblems (.number (.finite ratio)) = .kind .integer .fractional ::
      ((if ratio < 0 then [.belowRange] else []) ++
        if 65535 < ratio then [.aboveRange] else []) := by
  have low : ((0 : Int) : Rat) = 0 := rfl
  have high : ((greatestPort : Int) : Rat) = 65535 := rfl
  simp only [portProblems, Number.isInteger, isBelow, isAbove, beq_iff_eq, broken, low, high,
    decide_eq_true_eq, if_false]
  rfl

structure SaysBoth (name : String) : Prop where
  below : ∀ ratio : Rat, ratio.den ≠ 1 → ratio < 0 →
    fieldMessages name (.number (.finite ratio)) = [
      fieldMessage name "Expected integer, received float",
      fieldMessage name "Number must be greater than or equal to 0"]
  above : ∀ ratio : Rat, ratio.den ≠ 1 → 65535 < ratio →
    fieldMessages name (.number (.finite ratio)) = [
      fieldMessage name "Expected integer, received float",
      fieldMessage name "Number must be less than or equal to 65535"]
  infinite : ∀ negative,
    fieldMessages name (.number (.infinite negative)) = [
      fieldMessage name "Expected integer, received float",
      fieldMessage name (if negative then "Number must be greater than or equal to 0"
        else "Number must be less than or equal to 65535" : String)]

theorem saysBoth (notHost : name ≠ "host") : SaysBoth name := by
  have checked (number : Number) : fieldMessages name (.number number) =
      ((portProblems (.number number)).map fun problem =>
        { field := some name, problem := problem : Issue }).map issueMessage := by
    rw [fieldMessages, fieldIssues, fieldProblems, if_neg notHost]
  refine ⟨?_, ?_, ?_⟩
  · intro ratio broken below
    have within : ¬ 65535 < ratio := by linarith
    rw [checked, portProblems_fraction broken, if_pos below, if_neg within]
    rfl
  · intro ratio broken above
    have within : ¬ ratio < 0 := by linarith
    rw [checked, portProblems_fraction broken, if_pos above, if_neg within]
    rfl
  · intro negative
    rw [checked]
    cases negative <;> rfl

theorem fits_overlay_iff (fits : Fits name (fields.get name)) :
    Fits name ((fields.overlay (Document.fieldsFrom [] members)).get name) ↔
      Fields.get (Document.fieldsFrom [] members) name = .absent ∨
        Fits name (Fields.get (Document.fieldsFrom [] members) name) := by
  rw [Fields.get_overlay_once Document.nodup_fieldsFrom, Document.get_eq_absent_iff]
  by_cases listed : Text.ofString name ∈ (Document.fieldsFrom [] members).map (·.1)
  · simp [listed]
  · simp [listed, fits]

theorem optionalIssues_clean_iff :
    optionalIssues name value = [] ↔ value = .absent ∨ Fits name value := by
  rw [optionalIssues_eq_nil_iff, ← fieldIssues_eq_nil_iff, fieldIssues, List.map_eq_nil_iff]

theorem settingsIssues_fieldsFrom :
    settingsIssues (.object (Document.fieldsFrom [] members)) = [] ↔
      (∀ member ∈ members, member.1 ∈ (["host", "port", "webPort"] : List Text)) ∧
        ∀ name ∈ fieldNames, Fields.get (Document.fieldsFrom [] members) name = .absent ∨
          Fits name (Fields.get (Document.fieldsFrom [] members) name) := by
  have unknown (names : List Text) : unknownIssues names = [] ↔ names = [] := by
    cases names <;> simp [unknownIssues]
  simp only [settingsIssues_object, List.append_eq_nil_iff, optionalIssues_clean_iff, unknown,
    unknownNames_eq_nil_iff, known_fieldsFrom, fieldNames, List.forall_mem_cons]
  constructor
  · rintro ⟨host, port, webPort, known⟩
    exact ⟨known, host, port, webPort, List.forall_mem_nil _⟩
  · rintro ⟨known, host, port, webPort, _⟩
    exact ⟨host, port, webPort, known⟩

/-- A file that writes an object loads just when it has no fields but those of a configuration and
makes a valid one of any that is valid. -/
theorem loadFile_iff_overlay {system : FileSystem} {path : Text} {content : List UInt8}
    (leads : system.entry? path = some (.file content))
    (writes : Writes (Utf8.toStringLossy content) (.object members))
    (valid : (verdict (.object fields)).valid = true) :
    (∃ settings, loadFile system path = .ok settings) ↔
      (∀ member ∈ members, member.1 ∈ (["host", "port", "webPort"] : List Text)) ∧
        (verdict (.object (fields.overlay (Document.fieldsFrom [] members)))).valid = true := by
  rw [verdict_valid_iff, validate_object_eq_nil_iff] at valid ⊢
  simp only [loadFile_writes leads writes, exists_writtenAs_iff, Document.value]
  rw [settingsIssues_fieldsFrom]
  -- a field that the file lacks is left to the valid configuration below
  refine and_congr_right fun _ => forall₂_congr ?_
  intro name known
  exact (fits_overlay_iff (valid name known)).symm

/-- The verdict on an object is that on its three fields, one after another, and a file that writes
an object is held to the same. -/
theorem verdict_goes_by_field (fields : Fields) :
    ((verdict (.object fields)).valid = true ↔ (verdict (.object fields)).errors = []) ∧
    ((verdict (.object fields)).errors = [] ↔
      (∃ host : Text, fields.get "host" = .string host ∧ host ≠ "") ∧
      (∃ port : Int, fields.get "port" = .ofInt port ∧ 0 ≤ port ∧ port ≤ 65535) ∧
      ∃ port : Int, fields.get "webPort" = .ofInt port ∧ 0 ≤ port ∧ port ≤ 65535) ∧
    (verdict (.object fields)).errors =
      fieldMessages "host" (fields.get "host") ++ fieldMessages "port" (fields.get "port") ++
        fieldMessages "webPort" (fields.get "webPort") ∧
    (∀ name ∈ fieldNames, ∀ value,
      (fieldMessages name value = [] ↔ Fits name value) ∧
      (∀ message ∈ fieldMessages name value, ∃ said, message = fieldMessage name said) ∧
      (Fits name value → (verdict (.object (fields.put name value))).errors =
        (fieldNames.filter (· ≠ name)).flatMap fun other =>
          fieldMessages other (fields.get other))) ∧
    SaysBoth "port" ∧ SaysBoth "webPort" ∧
    (∀ other : Fields, (∀ name ∈ fieldNames, other.get name = fields.get name) →
      verdict (.object other) = verdict (.object fields)) ∧
    ((verdict (.object fields)).valid = true →
      ∀ system path content members, FileSystem.entry? system path = some (.file content) →
        Writes (Utf8.toStringLossy content) (.object members) →
        ((∃ settings, loadFile system path = .ok settings) ↔
          (∀ member ∈ members, member.1 ∈ (["host", "port", "webPort"] : List Text)) ∧
          (verdict (.object (fields.overlay (Document.fieldsFrom [] members)))).valid = true)) := by
  refine ⟨?_, ?_, ?_, ?_, saysBoth (by decide), saysBoth (by decide), ?_, ?_⟩
  · rw [verdict_valid_iff, verdict_errors]
  · rw [verdict_errors, validate_object_eq_nil_iff]
    simp only [fieldNames, List.forall_mem_cons]
    constructor
    · rintro ⟨host, port, webPort, _⟩
      exact ⟨host, port, webPort⟩
    · rintro ⟨host, port, webPort⟩
      exact ⟨host, port, webPort, List.forall_mem_nil _⟩
  · rw [verdict_errors, validate_object]
    simp [fieldNames]
  · intro name known value
    refine ⟨fieldMessages_eq_nil_iff, fun _ => fieldMessages_named, ?_⟩
    intro fits
    rw [verdict_errors, validate_object, flatMap_put fits]
  · intro other same
    rw [verdict, verdict, validate, validate, issues_congr same]
  · intro valid system path content members leads writes
    exact loadFile_iff_overlay leads writes valid

theorem reordered_file_overlays :
    (verdict (.object (Fields.overlay
      [("host", .string "node"), ("port", .ofInt 1), ("webPort", .ofInt 2)]
      (Document.fieldsFrom [] reorderedMembers)))).valid = true := by
  have valid : (verdict (.object
      [("host", .string "node"), ("port", .ofInt 1), ("webPort", .ofInt 2)])).valid = true := by
    decide +kernel
  have loaded : loadFile reorderedFile "/work/own" =
      .ok { host := some "a/", port := some 50000, webPort := some 80 } := by
    decide +kernel
  obtain ⟨_, _, _, _, _, _, _, agrees⟩ := verdict_goes_by_field
    [("host", .string "node"), ("port", .ofInt 1), ("webPort", .ofInt 2)]
  exact ((agrees valid _ _ _ _ reorderedFile_leads reorderedFile_writes).mp ⟨_, loaded⟩).2

example : verdict (.object [("extra", .null), ("webPort", .number (.infinite false)),
      ("port", .number (.finite (-1 / 2)))]) = {
    valid := false
    errors := [
      "Invalid host: Required",
      "Invalid port: Expected integer, received float",
      "Invalid port: Number must be greater than or equal to 0",
      "Invalid webPort: Expected integer, received float",
      "Invalid webPort: Number must be less than or equal to 65535"] } := by
  decide +kernel

end NodeConsole.Config
