import NodeConsole.Page.Escape

/-!
Texts on the error page. Escaping is a substitution unit by unit, which entities read from the left
undo; what is escaped holds no markup. So the tags of the page are its own whatever the texts are,
and the page tells both texts.
-/

namespace NodeConsole

namespace Page

def entities : List (UInt16 × Text) := [
  (ampersand, "&amp;"),
  (lessThan, "&lt;"),
  (greaterThan, "&gt;"),
  (quote, "&quot;"),
  (apostrophe, "&#x27;")]

def substitute (unit : UInt16) : List UInt16 :=
  match entities.find? fun entity => entity.1 = unit with
  | some (_, entity) => entity.units
  | none => [unit]

/-- A text with each entity read as the character that it means, from the left. -/
def unescape : List UInt16 → List UInt16
  | [] => []
  | unit :: rest =>
    match entities.find? fun entity => entity.2.units.isPrefixOf (unit :: rest) with
    | some (meant, entity) => meant :: unescape (rest.drop (entity.units.length - 1))
    | none => unit :: unescape rest
termination_by units => units.length
decreasing_by
  · rw [List.length_drop, List.length_cons]
    omega
  · exact Nat.lt_succ_self _

def tagsFrom : Option (List UInt16) → List UInt16 → List Text
  | _, [] => []
  | none, unit :: rest => tagsFrom (if unit = lessThan then some [unit] else none) rest
  | some tag, unit :: rest =>
    if unit = greaterThan then ⟨tag ++ [unit]⟩ :: tagsFrom none rest
    else tagsFrom (some (tag ++ [unit])) rest

/-- The tags of a page: each goes from a `<` to the next `>`. -/
def tags (page : Text) : List Text :=
  tagsFrom none page.units

theorem substitute_cases (unit : UInt16) :
    (∃ entity, (unit, entity) ∈ entities ∧ substitute unit = entity.units) ∨
      (∀ entity ∈ entities, entity.1 ≠ unit) ∧ substitute unit = [unit] := by
  cases found : entities.find? fun entity => entity.1 = unit with
  | some entity =>
      have listed := List.mem_of_find?_eq_some found
      have same : entity.1 = unit := by simpa using List.find?_some found
      refine .inl ⟨entity.2, same ▸ listed, ?_⟩
      rw [substitute, found]
  | none =>
      refine .inr ⟨by simpa using found, ?_⟩
      rw [substitute, found]

theorem escape_cons (unit : UInt16) (rest : List UInt16) :
    (escape ⟨unit :: rest⟩).units = (escape ⟨[unit]⟩).units ++ (escape ⟨rest⟩).units := by
  simp only [escape, replaceUnit, List.flatMap_cons, List.flatMap_append, List.flatMap_nil,
    List.append_nil]

theorem escape_single (unit : UInt16) : (escape ⟨[unit]⟩).units = substitute unit := by
  rcases substitute_cases unit with ⟨entity, listed, substituted⟩ | ⟨plain, substituted⟩
  · have all : ∀ entity ∈ entities, (escape ⟨[entity.1]⟩).units = entity.2.units := by
      decide +kernel
    rw [substituted, all (unit, entity) listed]
  · rw [substituted]
    have others (mark : UInt16) (entity : Text) (listed : (mark, entity) ∈ entities) :
        unit ≠ mark := fun same => plain _ listed same.symm
    simp [escape, replaceUnit, others ampersand "&amp;" (by decide),
      others lessThan "&lt;" (by decide), others greaterThan "&gt;" (by decide),
      others quote "&quot;" (by decide), others apostrophe "&#x27;" (by decide)]

/-- Replacing the characters that mark up one after another comes to one substitution. -/
theorem escape_eq (text : Text) : escape text = ⟨text.units.flatMap substitute⟩ := by
  obtain ⟨units⟩ := text
  refine congrArg Text.mk ?_
  change (escape ⟨units⟩).units = units.flatMap substitute
  induction units with
  | nil => rfl
  | cons unit rest ih => rw [escape_cons, escape_single, ih, List.flatMap_cons]

theorem entity_starts {unit : UInt16} {entity : Text} (listed : (unit, entity) ∈ entities) :
    ∃ more, entity.units = ampersand :: more := by
  have started : ∀ entity ∈ entities, entity.2.units.head? = some ampersand := by decide +kernel
  exact List.head?_eq_some_iff.mp (started _ listed)

theorem unescape_plain {unit : UInt16} (plain : unit ≠ ampersand) (rest : List UInt16) :
    unescape (unit :: rest) = unit :: unescape rest := by
  have unspelt :
      (entities.find? fun entity => entity.2.units.isPrefixOf (unit :: rest)) = none := by
    rw [List.find?_eq_none]
    intro entity listed spelt
    obtain ⟨more, starts⟩ := entity_starts listed
    rw [starts, List.isPrefixOf_iff_prefix, List.cons_prefix_cons] at spelt
    exact plain spelt.1.symm
  rw [unescape, unspelt]

/-- None of the entities begins another one, so the one that is written is the one that is read. -/
theorem find_entity {unit : UInt16} {entity : Text} (listed : (unit, entity) ∈ entities)
    (rest : List UInt16) :
    (entities.find? fun other => other.2.units.isPrefixOf (entity.units ++ rest)) =
      some (unit, entity) := by
  simp only [entities, List.mem_cons, Prod.mk.injEq, List.not_mem_nil, or_false] at listed
  rcases listed with ⟨rfl, rfl⟩ | ⟨rfl, rfl⟩ | ⟨rfl, rfl⟩ | ⟨rfl, rfl⟩ | ⟨rfl, rfl⟩
  · rfl
  · rfl
  · rfl
  · rfl
  · rfl

theorem unescape_entity {unit : UInt16} {entity : Text} (listed : (unit, entity) ∈ entities)
    (rest : List UInt16) : unescape (entity.units ++ rest) = unit :: unescape rest := by
  have found := find_entity listed rest
  obtain ⟨more, starts⟩ := entity_starts listed
  rw [starts, List.cons_append] at found ⊢
  rw [unescape, found]
  simp [starts]

theorem unescape_substitute (unit : UInt16) (rest : List UInt16) :
    unescape (substitute unit ++ rest) = unit :: unescape rest := by
  rcases substitute_cases unit with ⟨entity, listed, substituted⟩ | ⟨plain, substituted⟩
  · rw [substituted, unescape_entity listed]
  · have notAmpersand : unit ≠ ampersand :=
      fun same => plain (ampersand, "&amp;") (by decide) same.symm
    rw [substituted]
    exact unescape_plain notAmpersand rest

theorem unescape_escape (text : Text) : unescape (escape text).units = text.units := by
  rw [escape_eq]
  change unescape (text.units.flatMap substitute) = text.units
  induction text.units with
  | nil => rw [List.flatMap_nil, unescape]
  | cons unit rest ih => rw [List.flatMap_cons, unescape_substitute, ih]

theorem not_mem_escape {unit : UInt16} (marks : unit ∈ [lessThan, greaterThan, quote, apostrophe])
    (text : Text) : unit ∉ (escape text).units := by
  have spelt : ∀ entity ∈ entities,
      [lessThan, greaterThan, quote, apostrophe].filter (· ∈ entity.2.units) = [] := by
    decide +kernel
  rw [escape_eq]
  intro holds
  obtain ⟨source, _, holds⟩ := List.mem_flatMap.mp holds
  rcases substitute_cases source with ⟨entity, found, substituted⟩ | ⟨plain, substituted⟩
  · rw [substituted] at holds
    exact List.filter_eq_nil_iff.mp (spelt _ found) unit marks (decide_eq_true holds)
  · rw [substituted, List.mem_singleton] at holds
    have marked : unit ∈ (entities.map (·.1)).tail := marks
    obtain ⟨entity, found, same⟩ := List.mem_map.mp (List.mem_of_mem_tail marked)
    exact plain entity found (same.trans holds)

theorem ampersand_substitute {unit : UInt16} {position : Nat}
    (holds : (substitute unit)[position]? = some ampersand) :
    position = 0 ∧ ∃ entity ∈ entities, substitute unit = entity.2.units := by
  have once : ∀ entity ∈ entities, ampersand ∉ entity.2.units.tail := by decide +kernel
  rcases substitute_cases unit with ⟨entity, listed, substituted⟩ | ⟨plain, substituted⟩
  · refine ⟨?_, _, listed, substituted⟩
    obtain ⟨more, starts⟩ := entity_starts listed
    have absent := once _ listed
    rw [substituted, starts] at holds
    rw [starts] at absent
    cases position with
    | zero => rfl
    | succ position => exact (absent (List.mem_of_getElem? holds)).elim
  · have same : unit = ampersand := by
      have member := List.mem_of_getElem? holds
      rw [substituted, List.mem_singleton] at member
      exact member.symm
    exact (plain (ampersand, "&amp;") (by decide) same.symm).elim

theorem ampersand_starts {text : Text} {position : Nat}
    (holds : (escape text).units[position]? = some ampersand) :
    ∃ entity ∈ entities, entity.2.units <+: (escape text).units.drop position := by
  obtain ⟨units⟩ := text
  rw [escape_eq] at holds ⊢
  change (units.flatMap substitute)[position]? = some ampersand at holds
  change ∃ entity ∈ entities, entity.2.units <+: (units.flatMap substitute).drop position
  -- an ampersand is either the first unit of a substitution or lies in what is behind it
  induction units generalizing position with
  | nil => simp at holds
  | cons unit rest ih =>
      rw [List.flatMap_cons] at holds ⊢
      by_cases inside : position < (substitute unit).length
      · rw [List.getElem?_append_left inside] at holds
        obtain ⟨rfl, entity, listed, same⟩ := ampersand_substitute holds
        refine ⟨entity, listed, ?_⟩
        rw [same]
        exact List.prefix_append ..
      · rw [List.getElem?_append_right (by omega)] at holds
        rw [List.drop_append, List.drop_eq_nil_of_le (by omega), List.nil_append]
        exact ih holds

theorem escape_injective {text other : Text} (same : escape text = escape other) :
    text = other := by
  have units := unescape_escape text
  rw [same, unescape_escape] at units
  exact congrArg Text.mk units.symm

section Tags

variable {front rest : List UInt16}

/-- What is open behind a part of a page, when `inside` is open before it. -/
def openTag (inside : Option (List UInt16)) : List UInt16 → Option (List UInt16)
  | [] => inside
  | unit :: rest =>
    match inside with
    | none => openTag (if unit = lessThan then some [unit] else none) rest
    | some tag => openTag (if unit = greaterThan then none else some (tag ++ [unit])) rest

theorem tagsFrom_append (inside : Option (List UInt16)) (front rest : List UInt16) :
    tagsFrom inside (front ++ rest) =
      tagsFrom inside front ++ tagsFrom (openTag inside front) rest := by
  induction front generalizing inside with
  | nil => cases inside <;> simp [tagsFrom, openTag]
  | cons unit front ih =>
      cases inside with
      | none => simp only [List.cons_append, tagsFrom, openTag, ih]
      | some tag =>
          simp only [List.cons_append, tagsFrom, openTag]
          split
          · rw [ih, List.cons_append]
          · rw [ih]

theorem tagsFrom_closed {tags : List Text} (found : tagsFrom none front = tags)
    (closed : openTag none front = none) (rest : List UInt16) :
    tagsFrom none (front ++ rest) = tags ++ tagsFrom none rest := by
  rw [tagsFrom_append, found, closed]

theorem no_tags (free : lessThan ∉ front) :
    tagsFrom none front = [] ∧ openTag none front = none := by
  induction front with
  | nil => exact ⟨rfl, rfl⟩
  | cons unit front ih =>
      have apart : unit ≠ lessThan := fun same => free (same ▸ List.mem_cons_self)
      rw [tagsFrom, openTag, if_neg apart]
      exact ih fun listed => free (List.mem_cons_of_mem _ listed)

theorem tagsFrom_escape (text : Text) (rest : List UInt16) :
    tagsFrom none ((escape text).units ++ rest) = tagsFrom none rest := by
  obtain ⟨none, closed⟩ := no_tags (not_mem_escape (by decide : lessThan ∈ _) text)
  exact tagsFrom_closed none closed rest

end Tags

def beforeTitle : Text :=
  "<!DOCTYPE html>\n<html lang=\"en\">\n<head>\n  <meta charset=\"UTF-8\">\n  <title>Error - "

def betweenTitles : Text := "</title>\n</head>\n<body>\n  <h1>"

def beforeMessage : Text := "</h1>\n  <p>"

def afterMessage : Text := "</p>\n</body>\n</html>"

theorem units_errorPage (title message : Text) :
    (errorPage title message).units =
      beforeTitle.units ++ ((escape title).units ++ (betweenTitles.units ++
        ((escape title).units ++ (beforeMessage.units ++
          ((escape message).units ++ afterMessage.units))))) := by
  rw [← List.append_assoc, ← List.append_assoc, ← List.append_assoc, ← List.append_assoc,
    ← List.append_assoc]
  rfl

def errorTags : List Text := [
  "<!DOCTYPE html>", "<html lang=\"en\">", "<head>", "<meta charset=\"UTF-8\">", "<title>",
  "</title>", "</head>", "<body>", "<h1>", "</h1>", "<p>", "</p>", "</body>", "</html>"]

theorem tags_errorPage (title message : Text) : tags (errorPage title message) = errorTags := by
  have first : tagsFrom none beforeTitle.units = errorTags.take 5 := by decide +kernel
  have second : tagsFrom none betweenTitles.units = (errorTags.drop 5).take 4 := by decide +kernel
  have third : tagsFrom none beforeMessage.units = (errorTags.drop 9).take 2 := by decide +kernel
  have fourth : tagsFrom none afterMessage.units = errorTags.drop 11 := by decide +kernel
  -- the texts add no tags, so that those of the four fixed parts are all there are
  rw [tags, units_errorPage, tagsFrom_closed first (by decide), tagsFrom_escape,
    tagsFrom_closed second (by decide), tagsFrom_escape, tagsFrom_closed third (by decide),
    tagsFrom_escape, fourth]
  rfl

theorem takeWhile_escape (text : Text) (rest : List UInt16) :
    ((escape text).units ++ lessThan :: rest).takeWhile (· ≠ lessThan) = (escape text).units := by
  have free : ∀ unit ∈ (escape text).units, decide (unit ≠ lessThan) = true := by
    intro unit holds
    refine decide_eq_true ?_
    rintro rfl
    exact not_mem_escape (by decide) text holds
  rw [List.takeWhile_append_of_pos free, List.takeWhile_cons_of_neg (by simp), List.append_nil]

/-- An escaped text reaches to the next tag and no further. -/
theorem escape_cut {text other : Text} {rest otherRest : List UInt16}
    (same : (escape text).units ++ lessThan :: rest =
      (escape other).units ++ lessThan :: otherRest) :
    text = other ∧ rest = otherRest := by
  have texts := congrArg (List.takeWhile (· ≠ lessThan)) same
  rw [takeWhile_escape, takeWhile_escape] at texts
  rw [texts] at same
  exact ⟨escape_injective (congrArg Text.mk texts),
    (List.cons.inj (List.append_cancel_left same)).2⟩

theorem errorPage_inj {title message other otherMessage : Text} :
    errorPage title message = errorPage other otherMessage ↔
      title = other ∧ message = otherMessage := by
  constructor
  · intro same
    have units := congrArg Text.units same
    rw [units_errorPage, units_errorPage] at units
    obtain ⟨titles, between⟩ := escape_cut (List.append_cancel_left units)
    obtain ⟨_, behind⟩ := escape_cut (List.append_cancel_left between)
    obtain ⟨messages, _⟩ := escape_cut (List.append_cancel_left behind)
    exact ⟨titles, messages⟩
  · rintro ⟨rfl, rfl⟩
    rfl

/-- Texts on an error page stay texts: escaping is one substitution, which leaves no markup and no
ampersand but those of entities, and which reading the entities undoes. So the tags of an error
page are the same for all texts, and it tells which texts they were. -/
theorem error_texts_enclosed :
    (∀ text : Text,
      escape text = ⟨text.units.flatMap substitute⟩ ∧
      (∀ unit ∈ [lessThan, greaterThan, quote, apostrophe], unit ∉ (escape text).units) ∧
      (∀ position, (escape text).units[position]? = some ampersand →
        ∃ entity ∈ entities, entity.2.units <+: (escape text).units.drop position) ∧
      unescape (escape text).units = text.units) ∧
    (∀ title message, tags (errorPage title message) = errorTags) ∧
    ∀ title message other otherMessage,
      errorPage title message = errorPage other otherMessage ↔
        title = other ∧ message = otherMessage := by
  refine ⟨?_, tags_errorPage, fun _ _ _ _ => errorPage_inj⟩
  intro text
  exact ⟨escape_eq text, fun _ marks => not_mem_escape marks text, fun _ => ampersand_starts,
    unescape_escape text⟩

example : escape "<b>&lt;" = ("&lt;b&gt;&amp;lt;" : Text) := by decide +kernel

end Page

end NodeConsole
