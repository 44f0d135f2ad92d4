import NodeConsole.CommandLine
import NodeConsole.Proofs.Shapes
import NodeConsole.Proofs.Sources

/-!
Which version a program says it is. It is the text that the package file beside its directory holds;
where there is none, the program fails with what the file system says of that file, or with a list
of the one place where the document departs from what is wanted.
-/

namespace NodeConsole.Package

open Json (Fields Value)
open Shape (Mismatch)

def Beside (directory path : Text) : Prop :=
  Path.Resolves directory ["..", "package.json"] path

def Says (system : FileSystem) (directory version : Text) : Prop :=
  ∃ path fields, Beside directory path ∧ system.Denotes path (.object fields) ∧
    Fields.get fields "version" = .string version

inductive Departs : Value → Mismatch → Prop
  | noObject {value : Value} (other : value.kind ≠ .object) :
      Departs value { path := [], expected := .object, received := value.kind }
  | noText {fields : Fields} (other : (Fields.get fields "version").kind ≠ .string) :
      Departs (.object fields)
        { path := [.field "version"], expected := .string
          received := (Fields.get fields "version").kind }

inductive Fault (system : FileSystem) (directory : Text) : Failure → Prop
  | unread {path : Text} {cause : Failure} (beside : Beside directory path)
      (unread : system.Unread path cause) : Fault system directory cause
  | misshapen {path : Text} {value : Value} {report : Mismatch} (beside : Beside directory path)
      (denotes : system.Denotes path value) (departs : Departs value report) :
      Fault system directory (.foreign (Shape.listing [report]))

theorem beside_path (directory : Text) : Beside directory (Package.path directory) :=
  Path.resolve_iff.mp rfl

theorem Beside.eq_path {directory path : Text} (beside : Beside directory path) :
    path = Package.path directory :=
  (Path.resolve_iff.mpr beside).symm

theorem textField_eq_error_iff {value : Value} {reports : List Mismatch} :
    Shape.textField "version" value = .error reports ↔
      ∃ report, Departs value report ∧ reports = [report] := by
  rw [Shape.textField_eq_error_iff]
  constructor
  · rintro (⟨other, rfl⟩ | ⟨fields, rfl, other, rfl⟩)
    · exact ⟨_, .noObject other, rfl⟩
    · exact ⟨_, .noText other, rfl⟩
  · rintro ⟨report, departs, rfl⟩
    cases departs with
    | noObject other => exact .inl ⟨other, rfl⟩
    | noText other => exact .inr ⟨_, rfl, other, rfl⟩

/-- What is said of a package of the wrong shape can be read as a report of the one place. -/
theorem Departs.lists {value : Value} {report : Mismatch} (departs : Departs value report) :
    Shape.Lists (Shape.listing [report]) [report] := by
  apply Shape.listing_lists
  rw [List.forall_mem_singleton]
  intro index within
  cases departs with
  | noObject _ => simp at within
  | noText _ => simp at within

variable {system : FileSystem} {directory : Text}

theorem version_outcome (system : FileSystem) (directory : Text) :
    match version system directory with
    | .ok text => Says system directory text
    | .error cause => Fault system directory cause := by
  have beside := beside_path directory
  simp only [version, bind, Except.bind]
  cases document : system.document (path directory) with
  | error cause => exact .unread beside (FileSystem.document_eq_error_iff.mp document)
  | ok value =>
      have denotes := FileSystem.document_eq_ok_iff.mp document
      cases field : Shape.textField "version" value with
      | error reports =>
          obtain ⟨report, departs, rfl⟩ := textField_eq_error_iff.mp field
          simp only [field]
          exact .misshapen beside denotes departs
      | ok text =>
          have held := (Shape.textField_eq_ok_iff ..).mp field
          cases value with
          | object fields =>
              simp only [field]
              exact ⟨_, fields, beside, denotes, held⟩
          | _ => cases held

theorem version_eq_ok_iff {text : Text} :
    version system directory = .ok text ↔ Says system directory text := by
  constructor
  · intro said
    have outcome := version_outcome system directory
    rwa [said] at outcome
  · rintro ⟨path, fields, beside, denotes, held⟩
    have document := FileSystem.document_eq_ok_iff.mpr (beside.eq_path ▸ denotes)
    have field := (Shape.textField_eq_ok_iff "version" (.object fields) text).mpr held
    simp only [version, bind, Except.bind, document, field]
    rfl

theorem version_eq_error_iff {cause : Failure} :
    version system directory = .error cause ↔ Fault system directory cause := by
  constructor
  · intro refused
    have outcome := version_outcome system directory
    rwa [refused] at outcome
  · intro fault
    cases fault with
    | unread beside unread =>
        have document := FileSystem.document_eq_error_iff.mpr (beside.eq_path ▸ unread)
        simp only [version, bind, Except.bind, document]
    | misshapen beside denotes departs =>
        have document := FileSystem.document_eq_ok_iff.mpr (beside.eq_path ▸ denotes)
        have field := textField_eq_error_iff.mpr ⟨_, departs, rfl⟩
        simp only [version, bind, Except.bind, document, field]
        rfl

end NodeConsole.Package
