import NodeConsole.File.Path

/-!
Where paths lead. A path is a row of names with slashes between them. Followed one after another,
the names lead from one place to another, and from the root if the path starts with a slash.
Resolving several paths gives the absolute path of the place that they lead to, each seen from where
the one before has led (`resolve_iff`).
-/

namespace NodeConsole

namespace Path

/-- The names that stand in a text, with slashes between them. -/
inductive Spells : Text → List Text → Prop
  | last {name : Text} (whole : slash ∉ name.units) : Spells name [name]
  | front {name behind : Text} {names : List Text} (whole : slash ∉ name.units)
      (spells : Spells behind names) : Spells (name ++ "/" ++ behind) (name :: names)

/-- Names that lead from one place to another. A place is the row of names on the way there from the
root; there is nothing above the root. -/
inductive Leads : List Text → List Text → List Text → Prop
  | here {place : List Text} : Leads place [] place
  | stay {place names last : List Text} {name : Text} (idle : name = "" ∨ name = ".")
      (leads : Leads place names last) : Leads place (name :: names) last
  | up {place names last : List Text} {name : Text} (dots : name = "..")
      (leads : Leads place.dropLast names last) : Leads place (name :: names) last
  | down {place names last : List Text} {name : Text} (busy : ¬ (name = "" ∨ name = "."))
      (noDots : name ≠ "..") (leads : Leads (place ++ [name]) names last) :
      Leads place (name :: names) last

inductive Sees (place : List Text) : Text → List Text → Prop
  | absolute {below : Text} {names last : List Text} (spells : Spells below names)
      (leads : Leads [] names last) : Sees place ("/" ++ below) last
  | relative {path : Text} {names last : List Text} (noSlash : ∀ below, path ≠ "/" ++ below)
      (spells : Spells path names) (leads : Leads place names last) : Sees place path last

/-- The place that several paths lead to, each seen from where the one before has led. -/
inductive Follows : List Text → List Text → List Text → Prop
  | here {place : List Text} : Follows place [] place
  | onward {place next last paths : List Text} {path : Text} (sees : Sees place path next)
      (follows : Follows next paths last) : Follows place (path :: paths) last

inductive Absolute : List Text → Text → Prop
  | root : Absolute [] "/"
  | below {text : Text} {names : List Text} (spells : Spells text names) :
      Absolute names ("/" ++ text)

/-- The absolute path that several paths lead to, the directory itself being seen from the root. -/
def Resolves (directory : Text) (paths : List Text) (text : Text) : Prop :=
  ∃ place, Follows [] (directory :: paths) place ∧ Absolute place text

section Spelling

variable {path name : Text} {row : List Text}

theorem names_behind (directory path : Text) :
    names (directory ++ "/" ++ path) = names directory ++ names path := by
  have units : (directory ++ "/" ++ path).units = directory.units ++ slash :: path.units :=
    List.append_assoc ..
  rw [names, Text.splitOn, units, List.splitOn_append_cons_self, List.map_append]
  rfl

theorem names_whole (whole : slash ∉ name.units) : names name = [name] := by
  rw [names, Text.splitOn, List.splitOn_eq_singleton whole]
  rfl

theorem Spells.names_eq (spells : Spells path row) : names path = row := by
  induction spells with
  | last whole => exact names_whole whole
  | front whole _ ih => rw [names_behind, names_whole whole, ih, List.singleton_append]

theorem Spells.whole (spells : Spells path row) : ∀ name ∈ row, slash ∉ name.units := by
  induction spells with
  | last whole => exact List.forall_mem_singleton.mpr whole
  | front whole _ ih => exact List.forall_mem_cons.mpr ⟨whole, ih⟩

theorem Spells.push {units : List UInt16} {unit : UInt16} (spells : Spells ⟨units⟩ row)
    (noSlash : unit ≠ slash) :
    Spells ⟨unit :: units⟩ (row.modifyHead fun name => ⟨unit :: name.units⟩) := by
  have whole (name : Text) (free : slash ∉ name.units) : slash ∉ unit :: name.units :=
    fun member => (List.mem_cons.mp member).elim (fun same => noSlash same.symm) free
  generalize same : (⟨units⟩ : Text) = path at spells
  cases spells with
  | last free =>
      subst same
      exact .last (whole _ free)
  | @front name behind names free spells =>
      have moved : (⟨unit :: units⟩ : Text) = ⟨unit :: name.units⟩ ++ "/" ++ behind :=
        congrArg (fun text : Text => (⟨unit :: text.units⟩ : Text)) same
      rw [moved]
      exact .front (whole _ free) spells

theorem spells_names (path : Text) : Spells path (names path) := by
  obtain ⟨units⟩ := path
  induction units with
  | nil => exact .last List.not_mem_nil
  | cons unit rest ih =>
      by_cases isSlash : unit = slash
      · subst isSlash
        have split : names ⟨slash :: rest⟩ = ("" : Text) :: names ⟨rest⟩ := names_behind "" ⟨rest⟩
        rw [split]
        exact .front List.not_mem_nil ih
      · have split : names ⟨unit :: rest⟩ =
            (names ⟨rest⟩).modifyHead fun name => ⟨unit :: name.units⟩ := by
          have other : (unit == slash) = false := beq_eq_false_iff_ne.mpr isSlash
          simp only [names, Text.splitOn, List.splitOn_cons_eq_if_modifyHead, other]
          cases rest.splitOn slash <;> rfl
        rw [split]
        exact ih.push isSlash

theorem spells_iff : Spells path row ↔ names path = row :=
  ⟨Spells.names_eq, fun same => same ▸ spells_names path⟩

theorem join_cons (name next : Text) (rest : List Text) :
    Text.join "/" (name :: next :: rest) = name ++ "/" ++ Text.join "/" (next :: rest) := by
  simp only [Text.join, List.map_cons, List.intercalate_cons_cons]
  rfl

theorem Spells.eq_join (spells : Spells path row) : path = Text.join "/" row := by
  induction spells with
  | @last name _ => simp [Text.join]
  | front _ spells ih =>
      cases spells with
      | last whole => rw [join_cons, ← ih]
      | front whole spells => rw [join_cons, ← ih]

theorem spells_join (some : row ≠ []) (whole : ∀ name ∈ row, slash ∉ name.units) :
    Spells (Text.join "/" row) row := by
  induction row with
  | nil => exact (some rfl).elim
  | cons name rest ih =>
      obtain ⟨free, restFree⟩ := List.forall_mem_cons.mp whole
      cases rest with
      | nil => simpa [Text.join] using Spells.last free
      | cons next rest =>
          rw [join_cons]
          exact .front free (ih (List.cons_ne_nil next rest) restFree)

theorem absolute_iff {text : Text} (whole : ∀ name ∈ row, slash ∉ name.units) :
    Absolute row text ↔ "/" ++ Text.join "/" row = text := by
  constructor
  · intro absolute
    cases absolute with
    | root => rfl
    | below spells => rw [spells.eq_join]
  · rintro rfl
    by_cases none : row = []
    · subst none
      exact .root
    · exact .below (spells_join none whole)

end Spelling

section Leading

variable {place last row : List Text} {path : Text}

theorem follow_idle {name : Text} (above : List Text) (idle : name = "" ∨ name = ".") :
    follow above name = above :=
  if_pos idle

theorem follow_dots (place : List Text) :
    follow place.reverse ".." = place.dropLast.reverse := by
  rw [follow, if_neg (by decide), if_pos rfl, List.drop_one, List.tail_reverse]

theorem follow_busy {name : Text} (place : List Text) (busy : ¬ (name = "" ∨ name = "."))
    (noDots : name ≠ "..") : follow place.reverse name = (place ++ [name]).reverse := by
  rw [follow, if_neg busy, if_neg noDots, List.reverse_concat]

theorem leads_iff : Leads place row last ↔ (row.foldl follow place.reverse).reverse = last := by
  constructor
  · intro leads
    induction leads with
    | here => exact List.reverse_reverse _
    | stay idle _ ih => rwa [List.foldl_cons, follow_idle _ idle]
    | up dots _ ih => rwa [List.foldl_cons, dots, follow_dots]
    | down busy noDots _ ih => rwa [List.foldl_cons, follow_busy _ busy noDots]
  · rintro rfl
    induction row generalizing place with
    | nil => exact (List.reverse_reverse place).symm ▸ .here
    | cons name rest ih =>
        rw [List.foldl_cons]
        by_cases idle : name = "" ∨ name = "."
        · rw [follow_idle _ idle]
          exact .stay idle ih
        · by_cases dots : name = ".."
          · rw [dots, follow_dots]
            exact .up rfl ih
          · rw [follow_busy _ idle dots]
            exact .down idle dots ih

theorem Leads.unique {other : List Text} (leads : Leads place row last)
    (also : Leads place row other) : other = last :=
  (leads_iff.mp also).symm.trans (leads_iff.mp leads)

theorem leads_settle : Leads [] row last ↔ settle row = last :=
  leads_iff

theorem Leads.append {more next : List Text} (leads : Leads place row next) :
    Leads place (row ++ more) last ↔ Leads next more last := by
  rw [leads_iff] at leads
  rw [leads_iff, leads_iff, List.foldl_append, ← leads, List.reverse_reverse]

theorem Leads.whole (leads : Leads place row last) (whole : ∀ name ∈ row, slash ∉ name.units)
    (before : ∀ name ∈ place, slash ∉ name.units) : ∀ name ∈ last, slash ∉ name.units := by
  induction leads with
  | here => exact before
  | stay _ _ ih => exact ih (List.forall_mem_cons.mp whole).2 before
  | up _ _ ih =>
      exact ih (List.forall_mem_cons.mp whole).2 fun name member =>
        before name (List.dropLast_subset _ member)
  | down _ _ _ ih =>
      obtain ⟨free, restFree⟩ := List.forall_mem_cons.mp whole
      exact ih restFree (List.forall_mem_append.mpr ⟨before, List.forall_mem_singleton.mpr free⟩)

theorem isAbsolute_iff : isAbsolute path = true ↔ ∃ below : Text, path = "/" ++ below := by
  obtain ⟨units⟩ := path
  rw [isAbsolute, decide_eq_true_eq, List.head?_eq_some_iff]
  constructor
  · rintro ⟨below, same⟩
    exact ⟨⟨below⟩, congrArg Text.mk same⟩
  · rintro ⟨below, same⟩
    exact ⟨below.units, congrArg Text.units same⟩

theorem sees_absolute (absolute : isAbsolute path = true) :
    Sees place path last ↔ Leads [] (names path) last := by
  obtain ⟨below, rfl⟩ := isAbsolute_iff.mp absolute
  have split : names ("/" ++ below) = ("" : Text) :: names below := names_behind "" below
  have root : Leads [] [""] [] := .stay (.inl rfl) .here
  rw [split, ← List.singleton_append, root.append]
  constructor
  · intro sees
    generalize same : ("/" : Text) ++ below = path at sees
    cases sees with
    | @absolute other names last spells leads =>
        have units := congrArg Text.units same
        obtain rfl : below = other := by
          cases below
          cases other
          exact congrArg Text.mk (List.cons.inj units).2
        rwa [spells.names_eq]
    | relative noSlash => exact (noSlash below same.symm).elim
  · exact .absolute (spells_names below)

theorem sees_relative (relative : isAbsolute path = false) :
    Sees place path last ↔ Leads place (names path) last := by
  have noSlash (below : Text) : path ≠ "/" ++ below := by
    intro same
    rw [isAbsolute_iff.mpr ⟨below, same⟩] at relative
    cases relative
  constructor
  · intro sees
    cases sees with
    | absolute => exact (noSlash _ rfl).elim
    | relative _ spells leads => rwa [spells.names_eq]
  · exact .relative noSlash (spells_names path)

/-- Joined to the path of a place, a path leads where it leads seen from there. -/
theorem leads_join {directory : Text} (leads : Leads [] (names directory) place) :
    Leads [] (names (join directory path)) last ↔ Sees place path last := by
  rw [join]
  split
  next absolute => exact (sees_absolute absolute).symm
  next notAbsolute =>
    have relative : isAbsolute path = false := Bool.eq_false_iff.mpr notAbsolute
    rw [sees_relative relative]
    split
    next empty =>
      have idle : names path = [("" : Text)] := by
        rw [empty]
        exact names_whole List.not_mem_nil
      have here : Leads [] (names directory ++ []) last ↔ Leads place [] last := leads.append
      have there : Leads place ([("" : Text)] ++ []) last ↔ Leads place [] last :=
        (Leads.stay (.inl rfl) .here).append
      rw [List.append_nil] at here there
      rw [idle, here, there]
    next => rw [names_behind, leads.append]

theorem sees_root : Sees [] path last ↔ Leads [] (names path) last := by
  by_cases absolute : isAbsolute path = true
  · exact sees_absolute absolute
  · exact sees_relative (Bool.eq_false_iff.mpr absolute)

/-- Paths that are joined one after another lead where they lead each seen from the one before. -/
theorem leads_foldl {directory : Text} {paths : List Text}
    (leads : Leads [] (names directory) place) :
    Leads [] (names (paths.foldl join directory)) last ↔ Follows place paths last := by
  induction paths generalizing directory place with
  | nil =>
      constructor
      · intro also
        rw [leads.unique also]
        exact .here
      · intro follows
        cases follows
        exact leads
  | cons path rest ih =>
      rw [List.foldl_cons]
      constructor
      · intro onward
        have reached :
            Leads [] (names (join directory path)) (settle (names (join directory path))) :=
          leads_settle.mpr rfl
        exact .onward ((leads_join leads).mp reached) ((ih reached).mp onward)
      · intro follows
        cases follows with
        | onward sees follows => exact (ih ((leads_join leads).mpr sees)).mpr follows

/-- Resolving paths gives the absolute path of the place that they lead to. -/
theorem resolve_iff {directory text : Text} {paths : List Text} :
    resolve directory paths = text ↔ Resolves directory paths text := by
  have whole : ∀ name ∈ settle (names (paths.foldl join directory)), slash ∉ name.units :=
    (leads_settle.mpr rfl).whole (spells_names _).whole (List.forall_mem_nil _)
  rw [resolve, ← absolute_iff whole]
  have root : Leads [] (names directory) (settle (names directory)) := leads_settle.mpr rfl
  constructor
  · intro absolute
    exact ⟨_, .onward (sees_root.mpr root) ((leads_foldl root).mp (leads_settle.mpr rfl)), absolute⟩
  · rintro ⟨place, follows, absolute⟩
    cases follows with
    | onward sees follows =>
        have leads := (leads_foldl (sees_root.mp sees)).mpr follows
        rwa [leads_settle.mp leads]

end Leading

end Path

end NodeConsole
