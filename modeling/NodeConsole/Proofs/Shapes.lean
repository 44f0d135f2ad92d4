import NodeConsole.Proofs.Writing
import NodeConsole.Shape

/-!
What the checks of a shape find. A value has the shape, or each place where it departs from it is
reported once, in order; and the JSON document that lists reports says of each the place, what is
wanted there and what stands there (`listing_lists`).
-/

namespace NodeConsole.Shape

open Json (Fields Kind Plain Value)

def text? : Value → Option Text
  | .string text => some text
  | _ => none

theorem text?_eq_some_iff (value : Value) (given : Text) :
    text? value = some given ↔ value = .string given := by
  cases value <;> simp [text?]

theorem kind_object_iff (value : Value) :
    value.kind = .object ↔ ∃ fields, value = .object fields := by
  constructor
  · intro same
    cases value with
    | object fields => exact ⟨fields, rfl⟩
    | number value => cases value <;> cases same
    | _ => cases same
  · rintro ⟨fields, rfl⟩
    rfl

theorem kind_array_iff (value : Value) : value.kind = .array ↔ ∃ items, value = .array items := by
  constructor
  · intro same
    cases value with
    | array items => exact ⟨items, rfl⟩
    | number value => cases value <;> cases same
    | _ => cases same
  · rintro ⟨items, rfl⟩
    rfl

theorem text_eq_error_iff (path : List Step) (value : Value) (reports : List Mismatch) :
    text path value = .error reports ↔
      value.kind ≠ .string ∧ reports = [{ path, expected := .string, received := value.kind }] := by
  cases value with
  | string given => simp [text, Value.kind]
  | number value => cases value <;> simp [text, Value.kind, eq_comm]
  | _ => simp [text, Value.kind, eq_comm]

theorem textField_eq_ok_iff (name : String) (value : Value) (read : Text) :
    textField name value = .ok read ↔ value.field name = .string read := by
  cases value with
  | object fields =>
      rw [textField]
      cases Value.field (.object fields) name <;> simp [text]
  | _ => constructor <;> (intro agreed; cases agreed)

theorem textField_eq_error_iff (name : String) (value : Value) (reports : List Mismatch) :
    textField name value = .error reports ↔
      value.kind ≠ .object ∧
          reports = [{ path := [], expected := .object, received := value.kind }] ∨
        ∃ fields, value = .object fields ∧ (Fields.get fields name).kind ≠ .string ∧
          reports = [{
            path := [.field name], expected := .string
            received := (Fields.get fields name).kind }] := by
  by_cases object : value.kind = .object
  · obtain ⟨fields, rfl⟩ := (kind_object_iff value).mp object
    rw [textField, Value.field]
    simpa [object] using text_eq_error_iff [.field name] (Fields.get fields name) reports
  · have other (fields : Fields) : value ≠ .object fields := by
      rintro rfl
      exact object rfl
    rw [textField]
    · simp [object, other, eq_comm]
    · exact other

theorem mapM_text?_iff {items : List Value} {texts : List Text} :
    items.mapM text? = some texts ↔ items = texts.map .string := by
  induction items generalizing texts with
  | nil =>
      cases texts <;> simp
  | cons item rest ih =>
      rw [List.mapM_cons]
      constructor
      · intro read
        cases item with
        | string first =>
            obtain ⟨others, later, rfl⟩ : ∃ others, rest.mapM text? = some others ∧
                first :: others = texts := by
              simpa [text?, Option.bind_eq_some_iff] using read
            rw [ih.mp later]
            rfl
        | _ => cases read
      · intro strings
        cases texts with
        | nil => cases strings
        | cons first others =>
            obtain ⟨rfl, same⟩ := List.cons.inj strings
            rw [ih.mpr same]
            rfl

theorem texts_strings (path : List Step) (given : List Text) :
    texts path (given.map .string) = .ok given := by
  have read : ((given.map Value.string).zipIdx.map fun indexed =>
      text (path ++ [Step.item indexed.2]) indexed.1) = given.map .ok := by
    rw [List.zipIdx_map, List.map_map]
    exact (List.map_map (f := Prod.fst) (g := Except.ok)).symm.trans
      (congrArg (List.map Except.ok) (List.zipIdx_map_fst 0 given))
  simp only [texts, read]
  simp [List.flatMap_map, List.filterMap_map, Function.comp_def, Except.toOption]

theorem exists_strings {items : List Value} (all : ∀ item ∈ items, (text? item).isSome) :
    ∃ given : List Text, items = given.map .string := by
  induction items with
  | nil => exact ⟨[], rfl⟩
  | cons item rest ih =>
      obtain ⟨others, rfl⟩ := ih fun later member => all later (List.mem_cons_of_mem item member)
      obtain ⟨first, read⟩ := Option.isSome_iff_exists.mp (all item List.mem_cons_self)
      cases item with
      | string text => exact ⟨text :: others, rfl⟩
      | _ => cases read

theorem isSome_of_texts {path : List Step} {items : List Value} {read : List Text}
    (accepted : texts path items = .ok read) : ∀ item ∈ items, (text? item).isSome := by
  intro item member
  obtain ⟨index, found⟩ := List.getElem?_of_mem member
  have among : (item, index) ∈ items.zipIdx := List.mem_zipIdx_iff_getElem?.mpr found
  rw [texts] at accepted
  split at accepted
  · rename_i noReports
    rw [List.isEmpty_iff, List.flatMap_eq_nil_iff] at noReports
    have noReport := noReports _ (List.mem_map_of_mem among)
    cases item with
    | string given => rfl
    | _ => cases noReport
  · cases accepted

theorem texts_eq_ok_iff (path : List Step) (items : List Value) (read : List Text) :
    texts path items = .ok read ↔ items.mapM text? = some read := by
  rw [mapM_text?_iff]
  constructor
  · intro accepted
    obtain ⟨given, rfl⟩ := exists_strings (isSome_of_texts accepted)
    rw [texts_strings] at accepted
    cases accepted
    rfl
  · rintro rfl
    exact texts_strings path read

def report? (path : List Step) (entry : Value × Nat) : Option Mismatch :=
  if entry.1.kind = .string then none
  else some {
    path := path ++ [.item entry.2], expected := .string, received := entry.1.kind }

theorem reports_eq (path : List Step) (entry : Value × Nat) :
    (match text (path ++ [.item entry.2]) entry.1 with
      | .ok _ => []
      | .error mismatches => mismatches) = (report? path entry).toList := by
  obtain ⟨item, index⟩ := entry
  cases item with
  | number value => cases value <;> rfl
  | _ => rfl

theorem texts_eq (path : List Step) (items : List Value) :
    texts path items =
      if (items.zipIdx.filterMap (report? path)).isEmpty then
        .ok ((items.zipIdx.map fun (item, index) => text (path ++ [.item index]) item).filterMap
          Except.toOption)
      else .error (items.zipIdx.filterMap (report? path)) := by
  have collected : items.zipIdx.filterMap (report? path) =
      (items.zipIdx.map fun (item, index) => text (path ++ [Step.item index]) item).flatMap fun
        | .ok _ => []
        | .error mismatches => mismatches := by
    rw [List.flatMap_map, List.filterMap_eq_flatMap_toList]
    exact List.flatMap_congr fun entry _ => (reports_eq path entry).symm
  rw [collected]
  rfl

theorem texts_eq_error_iff (path : List Step) (items : List Value) (reports : List Mismatch) :
    texts path items = .error reports ↔
      reports ≠ [] ∧ reports = items.zipIdx.filterMap (report? path) := by
  rw [texts_eq]
  by_cases empty : items.zipIdx.filterMap (report? path) = []
  · simp only [empty, List.isEmpty_nil, if_true, reduceCtorEq, false_iff, not_and]
    intro some same
    exact some same
  · rw [if_neg (by simpa using empty), Except.error.injEq]
    constructor
    · rintro rfl
      exact ⟨empty, rfl⟩
    · rintro ⟨_, rfl⟩
      rfl

theorem mem_reports_iff (path : List Step) (items : List Value) (report : Mismatch) :
    report ∈ items.zipIdx.filterMap (report? path) ↔
      ∃ index item, items[index]? = some item ∧ item.kind ≠ .string ∧
        report = { path := path ++ [.item index], expected := .string, received := item.kind } := by
  rw [List.mem_filterMap]
  constructor
  · rintro ⟨⟨item, index⟩, listed, reported⟩
    rw [List.mem_zipIdx_iff_getElem?] at listed
    by_cases string : item.kind = .string
    · simp [report?, string] at reported
    · rw [report?, if_neg string, Option.some.injEq] at reported
      exact ⟨index, item, listed, string, reported.symm⟩
  · rintro ⟨index, item, listed, noString, rfl⟩
    refine ⟨(item, index), List.mem_zipIdx_iff_getElem?.mpr listed, ?_⟩
    rw [report?, if_neg noString]

theorem reports_ascending (path : List Step) (items : List Value) :
    (items.zipIdx.filterMap (report? path)).Pairwise fun earlier later =>
      ∃ first second, first < second ∧ earlier.path = path ++ [.item first] ∧
        later.path = path ++ [.item second] := by
  have indexed : items.zipIdx.Pairwise fun earlier later => earlier.2 < later.2 := by
    rw [← List.pairwise_map (f := Prod.snd) (R := (· < ·)), List.zipIdx_map_snd]
    exact List.pairwise_lt_range'
  apply List.Pairwise.filterMap _ _ indexed
  intro earlier later before report reported other reportedLater
  rw [report?] at reported reportedLater
  split at reported
  · cases reported
  · split at reportedLater
    · cases reportedLater
    · cases reported
      cases reportedLater
      exact ⟨earlier.2, later.2, before, rfl, rfl⟩

inductive Names : Step → Value → Prop
  | field (name : String) : Names (.field name) (.string name)
  | item (index : Nat) : Names (.item index) (.number (.finite index))

structure Says (report : Mismatch) (value : Value) : Prop where
  code : value.field "code" = .string ("invalid_type" : String)
  expected : value.field "expected" = .string report.expected.name
  received : value.field "received" = .string report.received.name
  path : ∃ steps, value.field "path" = .array steps ∧ List.Forall₂ Names report.path steps
  missing : report.received = .absent → value.field "message" = .string ("Required" : String)
  wrong : report.received ≠ .absent → value.field "message" = .string
    ("Expected " ++ report.expected.name ++ ", received " ++ report.received.name : String)

/-- A text is a JSON document with one item for each report, in order. -/
def Lists (text : String) (reports : List Mismatch) : Prop :=
  ∃ values, Value.ofText? text = some (.array values) ∧ List.Forall₂ Says reports values

theorem names_toValue (step : Step) : Names step step.toValue := by
  cases step with
  | field name => exact .field name
  | item index => exact .item index

theorem says_toValue (report : Mismatch) : Says report report.toValue where
  code := rfl
  expected := rfl
  received := rfl
  path := by
    refine ⟨_, rfl, ?_⟩
    rw [List.forall₂_map_right_iff]
    exact List.forall₂_same.mpr fun step _ => names_toValue step
  missing absent := congrArg Value.ofString (if_pos absent)
  wrong present := congrArg Value.ofString (if_neg present)

theorem plain_toValue {report : Mismatch}
    (small : ∀ index, .item index ∈ report.path → index < 2 ^ 53) : Plain report.toValue := by
  have path : Plain (.array (report.path.map Step.toValue)) := by
    refine .array (List.forall_mem_map.mpr fun step listed => ?_)
    cases step with
    | field name => exact .string name
    | item index => exact .number (small index listed)
  have once : (["code", "expected", "received", "path", "message"] : List Text).Nodup := by decide
  refine .object once ?_
  simp only [List.forall_mem_cons]
  exact ⟨.string _, .string _, .string _, path, .string _, List.forall_mem_nil _⟩

theorem listing_lists {reports : List Mismatch}
    (small : ∀ report ∈ reports, ∀ index, .item index ∈ report.path → index < 2 ^ 53) :
    Lists (listing reports) reports := by
  refine ⟨reports.map Mismatch.toValue, Json.ofText?_indented (.array ?_), ?_⟩
  · rw [List.forall_mem_map]
    exact fun report listed => plain_toValue (small report listed)
  · rw [List.forall₂_map_right_iff]
    exact List.forall₂_same.mpr fun report _ => says_toValue report

end NodeConsole.Shape
