import Mathlib.Data.List.Nodup
import NodeConsole.Proofs.Document
import NodeConsole.Proofs.Validity

/-!
The fields of objects: what is found after fields were put, the fields of one object laid over those
of another, and the fields of a document, of whose members with one name the last one counts.
-/

namespace NodeConsole.Json

def last? {α : Type} (entries : List (Text × α)) (name : Text) : Option α :=
  (entries.reverse.find? fun entry => entry.1 = name).map (·.2)

section Entries

variable {α β : Type} {entries : List (Text × α)} {name : Text}

theorem last?_nil : last? ([] : List (Text × α)) name = none := rfl

theorem last?_cons (entry : Text × α) :
    last? (entry :: entries) name =
      (last? entries name).or (if entry.1 = name then some entry.2 else none) := by
  simp only [last?, List.reverse_cons, List.find?_append]
  cases entries.reverse.find? fun entry => entry.1 = name with
  | some found => rfl
  | none =>
      by_cases same : entry.1 = name
      · simp [same]
      · simp [same]

theorem last?_map (convert : α → β) :
    last? (entries.map fun entry => (entry.1, convert entry.2)) name =
      (last? entries name).map convert := by
  simp only [last?, ← List.map_reverse, List.find?_map, Option.map_map]
  rfl

theorem last?_eq_none_iff : last? entries name = none ↔ name ∉ entries.map (·.1) := by
  simp only [last?, Option.map_eq_none_iff, List.find?_eq_none, List.mem_reverse, List.mem_map,
    decide_eq_true_eq, not_exists, not_and]

/-- Where no name comes twice, the last entry with a name is the only one. -/
theorem last?_eq_some_iff (once : (entries.map (·.1)).Nodup) {value : α} :
    last? entries name = some value ↔ (name, value) ∈ entries := by
  induction entries with
  | nil => simp [last?_nil]
  | cons entry rest ih =>
      obtain ⟨fresh, restOnce⟩ := List.nodup_cons.mp once
      obtain ⟨other, old⟩ := entry
      rw [last?_cons, List.mem_cons, ← ih restOnce, Option.or_eq_some_iff]
      by_cases same : other = name
      · subst same
        have absent : last? rest other = none := last?_eq_none_iff.mpr fresh
        simp [absent, eq_comm]
      · have different : (name, value) ≠ (other, old) := by
          intro both
          exact same (congrArg (·.1) both).symm
        simp [same, different]

end Entries

namespace Fields

variable {fields below above : Fields} {name other : Text} {value : Value}

theorem get_cons (field : Text × Value) :
    get (field :: fields) name = if field.1 = name then field.2 else get fields name := by
  by_cases same : field.1 = name
  · simp [get, same]
  · simp [get, same]

theorem get_put : get (put name value fields) other =
    if name = other then value else get fields other := by
  induction fields with
  | nil => rw [put, get_cons]
  | cons field rest ih =>
      obtain ⟨first, old⟩ := field
      rw [put]
      by_cases same : first = name
      · subst same
        rw [if_pos rfl, get_cons, get_cons]
        by_cases found : first = other
        · simp [found]
        · simp [found]
      · rw [if_neg same, get_cons, get_cons, ih]
        by_cases found : first = other
        · subst found
          simp [Ne.symm same]
        · simp [found]

theorem put_fresh (fresh : name ∉ fields.map (·.1)) :
    put name value fields = fields ++ [(name, value)] := by
  induction fields with
  | nil => rfl
  | cons field rest ih =>
      obtain ⟨other, old⟩ := field
      obtain ⟨different, restFresh⟩ := not_or.mp (mt List.mem_cons.mpr fresh)
      rw [put, if_neg (Ne.symm different), ih restFresh, List.cons_append]

theorem mem_put_names : other ∈ (put name value fields).map (·.1) ↔
    other = name ∨ other ∈ fields.map (·.1) := by
  induction fields with
  | nil => simp [put]
  | cons field rest ih =>
      obtain ⟨first, old⟩ := field
      rw [put]
      by_cases same : first = name
      · simp [same]
      · rw [if_neg same, List.map_cons, List.mem_cons, ih, List.map_cons, List.mem_cons]
        constructor
        · rintro (first | put | kept)
          · exact .inr (.inl first)
          · exact .inl put
          · exact .inr (.inr kept)
        · rintro (put | first | kept)
          · exact .inr (.inl put)
          · exact .inl first
          · exact .inr (.inr kept)

theorem nodup_put (once : (fields.map (·.1)).Nodup) :
    ((put name value fields).map (·.1)).Nodup := by
  induction fields with
  | nil => simp [put]
  | cons field rest ih =>
      obtain ⟨first, old⟩ := field
      obtain ⟨fresh, restOnce⟩ := List.nodup_cons.mp once
      rw [put]
      by_cases same : first = name
      · rw [if_pos same, List.map_cons]
        exact List.nodup_cons.mpr ⟨same ▸ fresh, restOnce⟩
      · rw [if_neg same, List.map_cons]
        refine List.nodup_cons.mpr ⟨?_, ih restOnce⟩
        intro again
        rcases mem_put_names.mp again with put | kept
        · exact same put
        · exact fresh kept

theorem nodup_names (once : (fields.map (·.1)).Nodup) : (names fields).Nodup := by
  rw [names, List.nodup_append]
  refine ⟨?_, once.filter _, ?_⟩
  · exact (List.mergeSort_perm _ _).nodup_iff.mpr (once.filter _)
  · intro index isIndex name isOther same
    rw [List.mem_mergeSort, List.mem_filter] at isIndex
    rw [List.mem_filter, ← same, Option.isNone_iff_eq_none] at isOther
    rw [isOther.2] at isIndex
    cases isIndex.2

/-- The fields of one object put over those of another, as spreading both into one does. -/
def overlay (below above : Fields) : Fields :=
  above.foldl (fun fields field => fields.put field.1 field.2) below

theorem get_overlay : get (overlay below above) name =
    (last? above name).getD (get below name) := by
  induction above generalizing below with
  | nil => rfl
  | cons field rest ih =>
      have step : overlay below (field :: rest) = overlay (below.put field.1 field.2) rest := rfl
      rw [step, ih, get_put, last?_cons]
      cases last? rest name with
      | some value => rfl
      | none =>
          by_cases same : field.1 = name
          · simp [same]
          · simp [same]

theorem get_of_mem (once : (fields.map (·.1)).Nodup) (listed : (name, value) ∈ fields) :
    get fields name = value := by
  induction fields with
  | nil => cases listed
  | cons field rest ih =>
      obtain ⟨fresh, restOnce⟩ := List.nodup_cons.mp once
      rw [get_cons]
      cases listed with
      | head => rw [if_pos rfl]
      | tail _ behind =>
          have other : field.1 ≠ name := by
            rintro rfl
            exact fresh (List.mem_map.mpr ⟨_, behind, rfl⟩)
          rw [if_neg other, ih restOnce behind]

theorem get_overlay_once (once : (above.map (·.1)).Nodup) : get (overlay below above) name =
    if name ∈ above.map (·.1) then get above name else get below name := by
  rw [get_overlay]
  by_cases listed : name ∈ above.map (·.1)
  · obtain ⟨field, inside, rfl⟩ := List.mem_map.mp listed
    rw [if_pos listed, (last?_eq_some_iff once).mpr inside, get_of_mem once inside]
    rfl
  · rw [if_neg listed, last?_eq_none_iff.mpr listed]
    rfl

theorem mem_overlay_names : name ∈ (overlay below above).map (·.1) ↔
    name ∈ below.map (·.1) ∨ name ∈ above.map (·.1) := by
  induction above generalizing below with
  | nil => simp [overlay]
  | cons field rest ih =>
      have step : overlay below (field :: rest) = overlay (below.put field.1 field.2) rest := rfl
      rw [step, ih, mem_put_names, List.map_cons, List.mem_cons]
      constructor
      · rintro ((put | kept) | later)
        · exact .inr (.inl put)
        · exact .inl kept
        · exact .inr (.inr later)
      · rintro (kept | put | later)
        · exact .inl (.inr kept)
        · exact .inl (.inl put)
        · exact .inr later

theorem nodup_overlay (once : (below.map (·.1)).Nodup) :
    ((overlay below above).map (·.1)).Nodup := by
  induction above generalizing below with
  | nil => exact once
  | cons field rest ih => exact ih (nodup_put once)

theorem overlay_once (once : ((below ++ above).map (·.1)).Nodup) :
    overlay below above = below ++ above := by
  induction above generalizing below with
  | nil => exact (List.append_nil below).symm
  | cons field rest ih =>
      have step : overlay below (field :: rest) = overlay (below.put field.1 field.2) rest := rfl
      have fresh : field.1 ∉ below.map (·.1) := by
        rw [List.map_append, List.nodup_append] at once
        intro again
        exact once.2.2 field.1 again field.1 (by simp) rfl
      rw [step, put_fresh fresh, ih (by simpa using once), List.append_assoc]
      rfl

end Fields

namespace Document

/-- The field of a document: the value of the last member of that name. -/
def field? : Document → Text → Option Value
  | .object members, name => (last? members name).map value
  | _, _ => none

variable {document : Document} {members : List (Text × Document)} {done : Fields} {name : Text}

theorem fieldsFrom_eq (members : List (Text × Document)) :
    fieldsFrom done members =
      done.overlay (members.map fun member => (member.1, member.2.value)) := by
  induction members generalizing done with
  | nil => rw [fieldsFrom]; rfl
  | cons member rest ih => rw [fieldsFrom, ih]; rfl

theorem names_fieldsFrom :
    name ∈ (fieldsFrom [] members).map (·.1) ↔ name ∈ members.map (·.1) := by
  rw [fieldsFrom_eq, Fields.mem_overlay_names]
  simp

theorem nodup_fieldsFrom : ((fieldsFrom [] members).map (·.1)).Nodup := by
  rw [fieldsFrom_eq]
  exact Fields.nodup_overlay List.nodup_nil

theorem get_fieldsFrom : Fields.get (fieldsFrom done members) name =
    ((last? members name).map value).getD (Fields.get done name) := by
  rw [fieldsFrom_eq, Fields.get_overlay, last?_map]

theorem value_ne_absent (document : Document) : document.value ≠ .absent := by
  cases document <;> simp [value]

theorem get_eq_absent_iff : Fields.get (fieldsFrom [] members) name = .absent ↔
    name ∉ (fieldsFrom [] members).map (·.1) := by
  rw [names_fieldsFrom, get_fieldsFrom]
  by_cases listed : name ∈ members.map (·.1)
  · have present : last? members name ≠ none := fun none => last?_eq_none_iff.mp none listed
    obtain ⟨member, found⟩ := Option.ne_none_iff_exists'.mp present
    rw [found]
    exact ⟨fun same => (member.value_ne_absent same).elim, fun absent => (absent listed).elim⟩
  · rw [last?_eq_none_iff.mpr listed]
    exact ⟨fun _ => listed, fun _ => rfl⟩

theorem field?_ne_absent (document : Document) (name : Text) :
    document.field? name ≠ some .absent := by
  cases document with
  | object members =>
      intro absent
      obtain ⟨member, _, valued⟩ := Option.map_eq_some_iff.mp absent
      exact value_ne_absent member valued
  | _ => simp [field?]

theorem field_value (name : String) :
    document.value.field name = (document.field? name).getD .absent := by
  cases document with
  | object members => rw [value, Value.field, get_fieldsFrom]; rfl
  | _ => simp [value, field?, Value.field]

end Document

end NodeConsole.Json
