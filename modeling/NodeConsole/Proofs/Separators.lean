import NodeConsole.Proofs.StoreListing

/-!
What laying out a listing changes: the spaces that end its separators, which become line ends, and
nothing else. The separators are those found from the left, each behind the one before it; no other
is left over, and joining the lines again gives the listing back.
-/

namespace NodeConsole

namespace Page

def separator : List UInt16 := [space, bar, space]

def brokenSeparator : List UInt16 := [space, bar, lineEnd]

def StandsAt (pattern units : List UInt16) (start : Nat) : Prop :=
  pattern <+: units.drop start

structure FirstFrom (units : List UInt16) (cursor start : Nat) : Prop where
  reached : cursor ≤ start
  stands : StandsAt separator units start
  first : ∀ earlier, cursor ≤ earlier → earlier < start → ¬ StandsAt separator units earlier

/-- Where separators start that are found from a cursor on, each search beginning behind the
separator found before. -/
inductive FoundFrom (units : List UInt16) : Nat → Nat → Prop
  | first {cursor start : Nat} (first : FirstFrom units cursor start) :
      FoundFrom units cursor start
  | later {cursor start other : Nat} (first : FirstFrom units cursor start)
      (found : FoundFrom units (start + 3) other) : FoundFrom units cursor other

def joinLines : List UInt16 → List UInt16
  | 0x20 :: 0x7C :: 0x0A :: rest => space :: bar :: space :: joinLines rest
  | unit :: rest => unit :: joinLines rest
  | [] => []

section Finding

variable {pattern units front : List UInt16} {unit : UInt16} {cursor start other : Nat}

@[simp] theorem standsAt_zero : StandsAt pattern units 0 ↔ pattern <+: units := Iff.rfl

@[simp] theorem standsAt_cons :
    StandsAt pattern (unit :: units) (start + 1) ↔ StandsAt pattern units start := Iff.rfl

theorem standsAt_append :
    StandsAt pattern (front ++ units) (front.length + start) ↔ StandsAt pattern units start := by
  rw [StandsAt, StandsAt, List.drop_append, List.drop_eq_nil_of_le (by omega), List.nil_append,
    Nat.add_sub_cancel_left]

theorem FirstFrom.unique (first : FirstFrom units cursor start)
    (also : FirstFrom units cursor other) : other = start := by
  have notBefore := first.first other also.reached
  have notAfter := also.first start first.reached
  by_cases before : other < start
  · exact (notBefore before also.stands).elim
  · by_cases after : start < other
    · exact (notAfter after first.stands).elim
    · omega

theorem firstFrom_append :
    FirstFrom (front ++ units) (front.length + cursor) (front.length + start) ↔
      FirstFrom units cursor start := by
  constructor
  · intro first
    refine ⟨by have := first.reached; omega, standsAt_append.mp first.stands, ?_⟩
    intro earlier reached before stands
    exact first.first (front.length + earlier) (by omega) (by omega) (standsAt_append.mpr stands)
  · intro first
    refine ⟨by have := first.reached; omega, standsAt_append.mpr first.stands, ?_⟩
    intro earlier reached before stands
    obtain ⟨distance, rfl⟩ := Nat.exists_eq_add_of_le (show front.length ≤ earlier by omega)
    exact first.first distance (by omega) (by omega) (standsAt_append.mp stands)

theorem FoundFrom.reached (found : FoundFrom units cursor start) : cursor ≤ start := by
  induction found with
  | first first => exact first.reached
  | later first _ ih =>
      have := first.reached
      omega

theorem FoundFrom.stands (found : FoundFrom units cursor start) :
    StandsAt separator units start := by
  induction found with
  | first first => exact first.stands
  | later _ _ ih => exact ih

theorem foundFrom_append (front : List UInt16) :
    FoundFrom (front ++ units) (front.length + cursor) (front.length + start) ↔
      FoundFrom units cursor start := by
  constructor
  · intro found
    generalize there : front.length + cursor = from_ at found
    generalize goal : front.length + start = final at found
    induction found generalizing cursor with
    | first first =>
        subst there goal
        exact .first (firstFrom_append.mp first)
    | @later _ middle _ first _ ih =>
        subst there
        obtain ⟨distance, rfl⟩ := Nat.exists_eq_add_of_le
          (show front.length ≤ middle by have := first.reached; omega)
        exact .later (firstFrom_append.mp first) (ih (by omega) goal)
  · intro found
    induction found with
    | first first => exact .first (firstFrom_append.mpr first)
    | later first _ ih => exact .later (firstFrom_append.mpr first) ih

theorem firstFrom_succ (alone : ¬ StandsAt separator units cursor) :
    FirstFrom units cursor start ↔ FirstFrom units (cursor + 1) start := by
  constructor
  · intro first
    have apart : cursor ≠ start := fun same => alone (same ▸ first.stands)
    refine ⟨by have := first.reached; omega, first.stands, ?_⟩
    intro earlier reached before
    exact first.first earlier (by omega) before
  · intro first
    refine ⟨by have := first.reached; omega, first.stands, ?_⟩
    intro earlier reached before
    by_cases here : earlier = cursor
    · subst here
      exact alone
    · exact first.first earlier (by omega) before

theorem foundFrom_succ (alone : ¬ StandsAt separator units cursor) :
    FoundFrom units cursor start ↔ FoundFrom units (cursor + 1) start := by
  constructor
  · intro found
    cases found with
    | first first => exact .first ((firstFrom_succ alone).mp first)
    | later first found => exact .later ((firstFrom_succ alone).mp first) found
  · intro found
    cases found with
    | first first => exact .first ((firstFrom_succ alone).mpr first)
    | later first found => exact .later ((firstFrom_succ alone).mpr first) found

theorem firstFrom_stands (stands : StandsAt separator units cursor) :
    FirstFrom units cursor cursor :=
  ⟨Nat.le_refl _, stands, fun _ reached before => by omega⟩

/-- Where a separator stands, the search goes on three units behind its start. -/
theorem foundFrom_stands (stands : StandsAt separator units cursor) :
    FoundFrom units cursor start ↔ start = cursor ∨ FoundFrom units (cursor + 3) start := by
  constructor
  · intro found
    cases found with
    | first first => exact .inl ((firstFrom_stands stands).unique first)
    | later first found =>
        rw [(firstFrom_stands stands).unique first] at found
        exact .inr found
  · rintro (rfl | found)
    · exact .first (firstFrom_stands stands)
    · exact .later (firstFrom_stands stands) found

end Finding

section Breaking

variable {rest units : List UInt16} {unit : UInt16} {position start : Nat}

theorem found_cons (alone : ¬ separator <+: unit :: rest) :
    FoundFrom (unit :: rest) 0 start ↔ ∃ later, start = later + 1 ∧ FoundFrom rest 0 later := by
  have nowhere : ¬ StandsAt separator (unit :: rest) 0 := alone
  rw [foundFrom_succ nowhere]
  constructor
  · intro found
    obtain ⟨later, rfl⟩ := Nat.exists_eq_add_of_le found.reached
    exact ⟨later, Nat.add_comm .., (foundFrom_append [unit]).mp found⟩
  · rintro ⟨later, rfl, found⟩
    rw [Nat.add_comm later]
    exact (foundFrom_append [unit]).mpr found

theorem found_separator :
    FoundFrom (space :: bar :: space :: rest) 0 start ↔
      start = 0 ∨ ∃ later, start = later + 3 ∧ FoundFrom rest 0 later := by
  have stands : StandsAt separator (space :: bar :: space :: rest) 0 := ⟨rest, rfl⟩
  rw [foundFrom_stands stands]
  refine or_congr_right ?_
  constructor
  · intro found
    obtain ⟨later, rfl⟩ := Nat.exists_eq_add_of_le found.reached
    exact ⟨later, Nat.add_comm .., (foundFrom_append separator).mp found⟩
  · rintro ⟨later, rfl, found⟩
    rw [Nat.add_comm later]
    exact (foundFrom_append separator).mpr found

theorem not_found_nil : ¬ FoundFrom [] 0 start := by
  intro found
  have stands := found.stands
  simp [StandsAt, separator] at stands

theorem alone_of_unmatched
    (unmatched : ∀ rest', unit = 0x20 → rest = 0x7C :: 0x20 :: rest' → False) :
    ¬ separator <+: unit :: rest := by
  rintro ⟨others, same⟩
  cases same
  exact unmatched others rfl rfl

theorem length_breakLines (units : List UInt16) : (breakLines units).length = units.length := by
  fun_induction breakLines units with
  | case1 rest ih => simp [ih]
  | case2 unit rest unmatched ih => simp [ih]
  | case3 => rfl

theorem getElem?_breakLines_ne_iff :
    (breakLines units)[position]? ≠ units[position]? ↔
      ∃ start, FoundFrom units 0 start ∧ position = start + 2 := by
  induction units using breakLines.induct generalizing position with
  | case1 rest ih =>
      change (space :: bar :: lineEnd :: breakLines rest)[position]? ≠
        (space :: bar :: space :: rest)[position]? ↔
          ∃ start, FoundFrom (space :: bar :: space :: rest) 0 start ∧ position = start + 2
      simp only [found_separator]
      match position with
      | 0 => simp [space]
      | 1 => simp [bar]
      | 2 => simp [space, lineEnd]
      | position + 3 =>
          simp only [List.getElem?_cons_succ, ih]
          constructor
          · rintro ⟨later, found, rfl⟩
            exact ⟨later + 3, .inr ⟨later, rfl, found⟩, by omega⟩
          · rintro ⟨start, rfl | ⟨later, rfl, found⟩, same⟩
            · omega
            · exact ⟨later, found, by omega⟩
  | case2 unit rest unmatched ih =>
      have alone := alone_of_unmatched unmatched
      rw [breakLines_cons alone]
      simp only [found_cons alone]
      cases position with
      | zero => simp
      | succ position =>
          simp only [List.getElem?_cons_succ, ih]
          constructor
          · rintro ⟨later, found, rfl⟩
            exact ⟨later + 1, ⟨later, rfl, found⟩, by omega⟩
          · rintro ⟨start, ⟨later, rfl, found⟩, same⟩
            exact ⟨later, found, by omega⟩
  | case3 => simp [breakLines, not_found_nil]

/-- A found separator is broken where it stands. -/
theorem FoundFrom.broken (found : FoundFrom units 0 start) :
    StandsAt brokenSeparator (breakLines units) start := by
  induction units using breakLines.induct generalizing start with
  | case1 rest ih =>
      change FoundFrom (space :: bar :: space :: rest) 0 start at found
      change StandsAt brokenSeparator (space :: bar :: lineEnd :: breakLines rest) start
      rcases found_separator.mp found with rfl | ⟨later, rfl, behind⟩
      · exact ⟨breakLines rest, rfl⟩
      · exact ih behind
  | case2 unit rest unmatched ih =>
      have alone := alone_of_unmatched unmatched
      obtain ⟨later, rfl, behind⟩ := (found_cons alone).mp found
      rw [breakLines_cons alone]
      exact ih behind
  | case3 => exact (not_found_nil found).elim

theorem standsAt_iff {first second third : UInt16} :
    StandsAt [first, second, third] units start ↔ units[start]? = some first ∧
      units[start + 1]? = some second ∧ units[start + 2]? = some third := by
  have shifted (offset : Nat) : units[start + offset]? = (units.drop start)[offset]? := by
    rw [List.getElem?_drop]
  rw [← Nat.add_zero start, StandsAt, shifted 0, Nat.add_zero, shifted 1, shifted 2]
  match units.drop start with
  | [] => simp
  | [_] => simp
  | [_, _] => simp
  | _ :: _ :: _ :: _ => simp [List.cons_prefix_cons, eq_comm]

/-- Apart from line ends, a unit of what is laid out is the unit of the listing. -/
theorem kept_of_breakLines (holds : (breakLines units)[position]? = some unit)
    (kept : unit ≠ lineEnd) : units[position]? = some unit := by
  by_cases changed : (breakLines units)[position]? = units[position]?
  · rw [← changed]
    exact holds
  · obtain ⟨start, found, rfl⟩ := getElem?_breakLines_ne_iff.mp changed
    have broken := (standsAt_iff.mp found.broken).2.2
    rw [holds] at broken
    exact (kept (Option.some.inj broken)).elim

theorem not_separator_breakLines (units : List UInt16) (start : Nat) :
    ¬ StandsAt separator (breakLines units) start := by
  induction units using breakLines.induct generalizing start with
  | case1 rest ih =>
      change ¬ StandsAt separator (space :: bar :: lineEnd :: breakLines rest) start
      match start with
      | 0 => simp [separator, space, bar, lineEnd]
      | 1 => simp [StandsAt, separator, space, bar]
      | 2 => simp [StandsAt, separator, space, lineEnd]
      | start + 3 => exact ih start
  | case2 unit rest unmatched ih =>
      have alone := alone_of_unmatched unmatched
      cases start with
      | zero =>
          intro stands
          obtain ⟨first, second, third⟩ := standsAt_iff.mp stands
          exact alone (standsAt_iff.mpr ⟨kept_of_breakLines first (by decide),
            kept_of_breakLines second (by decide), kept_of_breakLines third (by decide)⟩)
      | succ start =>
          rw [breakLines_cons alone]
          exact ih start
  | case3 => simp [breakLines, StandsAt, separator]

theorem breakLines_eq_self (whole : ∀ start, ¬ StandsAt separator units start) :
    breakLines units = units := by
  apply List.ext_getElem?
  intro position
  by_cases same : (breakLines units)[position]? = units[position]?
  · exact same
  · obtain ⟨start, found, _⟩ := getElem?_breakLines_ne_iff.mp same
    exact (whole start found.stands).elim

theorem joinLines_cons (whole : ¬ brokenSeparator <+: unit :: rest) :
    joinLines (unit :: rest) = unit :: joinLines rest := by
  rw [joinLines]
  rintro others rfl rfl
  exact whole ⟨others, rfl⟩

theorem joinLines_breakLines (unbroken : ∀ start, ¬ StandsAt brokenSeparator units start) :
    joinLines (breakLines units) = units := by
  induction units using breakLines.induct with
  | case1 rest ih =>
      change space :: bar :: space :: joinLines (breakLines rest) = _
      rw [ih fun start => unbroken (start + 3)]
      rfl
  | case2 unit rest unmatched ih =>
      have alone := alone_of_unmatched unmatched
      -- a line end that is new would have a separator in front of it
      have whole : ¬ brokenSeparator <+: breakLines (unit :: rest) := by
        intro starts
        obtain ⟨first, second, third⟩ := standsAt_iff.mp (standsAt_zero.mpr starts)
        by_cases changed : (breakLines (unit :: rest))[2]? = (unit :: rest)[2]?
        · exact unbroken 0 (standsAt_iff.mpr ⟨kept_of_breakLines first (by decide),
            kept_of_breakLines second (by decide), changed.symm.trans third⟩)
        · obtain ⟨start, found, same⟩ := getElem?_breakLines_ne_iff.mp changed
          obtain rfl : start = 0 := by omega
          exact alone found.stands
      rw [breakLines_cons alone] at whole ⊢
      rw [joinLines_cons whole, ih fun start => unbroken (start + 1)]
  | case3 => rfl

end Breaking

/-- Laying out keeps the length of a listing and changes only the spaces that end the separators
found from the left, each into a line end. No separator is left, so that laying out again changes
nothing; and where the listing had no broken separator of its own, joining the lines restores it. -/
theorem layOutStore_breaks_separators (listing : Text) :
    (layOutStore listing).units.length = listing.units.length ∧
    (∀ position, (layOutStore listing).units[position]? ≠ listing.units[position]? ↔
      ∃ start, FoundFrom listing.units 0 start ∧ position = start + 2) ∧
    (∀ start, FoundFrom listing.units 0 start →
      StandsAt separator listing.units start ∧
        StandsAt brokenSeparator (layOutStore listing).units start) ∧
    (∀ start, ¬ StandsAt separator (layOutStore listing).units start) ∧
    layOutStore (layOutStore listing) = layOutStore listing ∧
    ((∀ start, ¬ StandsAt brokenSeparator listing.units start) →
      joinLines (layOutStore listing).units = listing.units) := by
  simp only [layOutStore_eq, Text.mk.injEq]
  refine ⟨length_breakLines _, fun _ => getElem?_breakLines_ne_iff, ?_,
    not_separator_breakLines _, ?_, joinLines_breakLines⟩
  · intro start found
    exact ⟨found.stands, found.broken⟩
  · exact breakLines_eq_self (not_separator_breakLines listing.units)

example : layOutStore "P | | Q |  | R" = ("P |\n| Q |\n |\nR" : Text) := by decide

end Page

end NodeConsole
