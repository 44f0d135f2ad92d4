import Mathlib.Data.List.Infix
import NodeConsole.Page.Diagnostics
import NodeConsole.Page.Escape

/-!
What the page of the node tells of its contents. They are put into the template as they are, so the
page tells them apart only as long as no value has the end within it that the template sets behind
such values. The first unit of such an end does not come back in it, so it never stands across the
border between a value and what follows (`marked_unique`).
-/

namespace NodeConsole

namespace Page

def Within (part text : Text) : Prop :=
  part.units <:+: text.units

instance (part text : Text) : Decidable (Within part text) :=
  inferInstanceAs (Decidable (part.units <:+: text.units))

/-- Contents whose values do not have the ends within them that the template sets behind them. The
store contents stand last and may have anything. -/
structure Content.Enclosed (content : Content) : Prop where
  peers : ∀ peer ∈ content.peers, ¬ Within "</li>" peer
  code : ¬ Within "</textarea>" content.code

/-- A template with its marks replaced by values, the first mark by the first value and so on. Only
marks of the template count: what has been put in is not looked at again. -/
inductive Filled (mark : List UInt16) : List UInt16 → List (List UInt16) → List UInt16 → Prop
  | rest {text : List UInt16} (unmarked : ¬ mark <:+: text) : Filled mark text [] text
  | place {before after value page : List UInt16} {values : List (List UInt16)}
      (first : ∀ other behind, before ++ (mark ++ after) = other ++ (mark ++ behind) →
        before.length ≤ other.length)
      (filled : Filled mark after values page) :
      Filled mark (before ++ (mark ++ after)) (value :: values) (before ++ (value ++ page))

section Marks

variable {α : Type} {mark before other between after behind : List α}

def StartsOnce (mark : List α) : Prop :=
  ∃ first rest, mark = first :: rest ∧ first ∉ rest

/-- What reaches up to a mark from the start of another one has the whole of that other one. -/
theorem mark_starts (once : StartsOnce mark) (present : between ≠ [])
    (same : mark ++ after = between ++ (mark ++ behind)) : mark <+: between := by
  obtain ⟨first, rest, rfl, fresh⟩ := once
  rcases List.append_eq_append_iff.mp same with ⟨more, whole, _⟩ | ⟨more, whole, later⟩
  · exact ⟨more, whole.symm⟩
  · cases more with
    | nil => exact ⟨[], by rw [whole, List.append_assoc, List.append_nil, List.append_nil]⟩
    | cons unit more =>
        -- a second mark that starts within the first one brings its first unit with it
        cases between with
        | nil => exact absurd rfl present
        | cons _ between =>
            rw [List.cons_append, List.cons_append, List.cons.injEq] at later
            rw [List.cons_append, List.cons.injEq] at whole
            refine absurd ?_ fresh
            rw [whole.2, later.1]
            exact List.mem_append_right between List.mem_cons_self

theorem marked_le (once : StartsOnce mark) (absent : ¬ mark <:+: before)
    (same : before ++ (mark ++ after) = other ++ (mark ++ behind)) :
    before.length ≤ other.length := by
  rcases List.append_eq_append_iff.mp same with ⟨between, whole, _⟩ | ⟨between, whole, later⟩
  · rw [whole, List.length_append]
    exact Nat.le_add_right ..
  · by_cases none : between = []
    · rw [whole, none, List.append_nil]
    · refine absurd ?_ absent
      rw [whole]
      exact (mark_starts once none later).isInfix.trans (List.suffix_append other between).isInfix

/-- A text is cut in one way only at a mark that is not within what stands before the cut. -/
theorem marked_unique (once : StartsOnce mark) (absent : ¬ mark <:+: before)
    (alsoAbsent : ¬ mark <:+: other)
    (same : before ++ (mark ++ after) = other ++ (mark ++ behind)) :
    before = other ∧ after = behind := by
  have length := Nat.le_antisymm (marked_le once absent same)
    (marked_le once alsoAbsent same.symm)
  obtain ⟨front, back⟩ := List.append_inj same length
  exact ⟨front, List.append_cancel_left back⟩

end Marks

theorem itemEnd_once : StartsOnce (Text.ofString "</li>").units :=
  ⟨lessThan, _, rfl, by decide⟩

theorem fieldEnd_once : StartsOnce (Text.ofString "</textarea>").units :=
  ⟨lessThan, _, rfl, by decide⟩

theorem placeMark_once : StartsOnce (Text.ofString placeMark).units :=
  ⟨lessThan, _, rfl, by decide⟩

theorem ofString_append (first second : String) :
    (Text.ofString (first ++ second)).units =
      (Text.ofString first).units ++ (Text.ofString second).units := by
  simp only [Text.ofString, Text.ofChars, String.toList_append, List.flatMap_append]

theorem units_diagnostics (content : Content) :
    (diagnostics content).units =
      (Text.ofString beforePeers).units ++ ((peerItems content.peers).units ++
        ((Text.ofString beforeCode).units ++ (content.code.units ++
          ((Text.ofString beforeStore).units ++ (content.store.units ++
            (Text.ofString afterStore).units))))) := by
  simp only [← List.append_assoc]
  rfl

theorem units_template :
    (Text.ofString template).units =
      (Text.ofString beforePeers).units ++ ((Text.ofString placeMark).units ++
        ((Text.ofString beforeCode).units ++ ((Text.ofString placeMark).units ++
          ((Text.ofString beforeStore).units ++ ((Text.ofString placeMark).units ++
            (Text.ofString afterStore).units))))) := by
  simp only [template, ofString_append, List.append_assoc]

theorem filled_place {before after value page : List UInt16} {values : List (List UInt16)}
    (unmarked : ¬ (Text.ofString placeMark).units <:+: before)
    (filled : Filled (Text.ofString placeMark).units after values page) :
    Filled (Text.ofString placeMark).units (before ++ ((Text.ofString placeMark).units ++ after))
      (value :: values) (before ++ (value ++ page)) :=
  .place (fun _ _ same => marked_le placeMark_once unmarked same) filled

theorem peerItems_cons (peer : Text) (peers : List Text) (behind : List UInt16) :
    (peerItems (peer :: peers)).units ++ behind =
      (Text.ofString "<li>").units ++ (peer.units ++ ((Text.ofString "</li>").units ++
        ((peerItems peers).units ++ behind))) := by
  simp only [← List.append_assoc]
  rfl

/-- The list of items ends where something starts that is no tag. -/
theorem peerItems_unique {peers others : List Text} {after behind : List UInt16}
    (whole : ∀ peer ∈ peers, ¬ Within "</li>" peer)
    (alsoWhole : ∀ peer ∈ others, ¬ Within "</li>" peer)
    (ends : after.head? ≠ some lessThan) (alsoEnds : behind.head? ≠ some lessThan)
    (same : (peerItems peers).units ++ after = (peerItems others).units ++ behind) :
    peers = others ∧ after = behind := by
  induction peers generalizing others with
  | nil =>
      cases others with
      | nil => exact ⟨rfl, same⟩
      | cons other others =>
          rw [peerItems_cons] at same
          exact absurd (congrArg List.head? same) ends
  | cons peer peers ih =>
      cases others with
      | nil =>
          rw [peerItems_cons] at same
          exact absurd (congrArg List.head? same).symm alsoEnds
      | cons other others =>
          rw [peerItems_cons, peerItems_cons] at same
          have cut := marked_unique itemEnd_once (whole peer List.mem_cons_self)
            (alsoWhole other List.mem_cons_self) (List.append_cancel_left same)
          obtain ⟨samePeers, sameBehind⟩ := ih
            (fun later listed => whole later (List.mem_cons_of_mem peer listed))
            (fun later listed => alsoWhole later (List.mem_cons_of_mem other listed)) cut.2
          have samePeer : peer = other := congrArg Text.mk cut.1
          exact ⟨by rw [samePeer, samePeers], sameBehind⟩

theorem diagnostics_injective {content other : Content} (enclosed : content.Enclosed)
    (alsoEnclosed : other.Enclosed) (same : diagnostics content = diagnostics other) :
    content = other := by
  have noTag (behind : List UInt16) :
      ((Text.ofString beforeCode).units ++ behind).head? ≠ some lessThan := by
    have starts : (Text.ofString beforeCode).units.head? = some 0x0A := by decide +kernel
    rw [List.head?_append, starts, Option.some_or]
    decide
  obtain ⟨behindField, fieldEnds⟩ :
      (Text.ofString "</textarea>").units <+: (Text.ofString beforeStore).units := by
    decide +kernel
  have units := congrArg Text.units same
  rw [units_diagnostics, units_diagnostics] at units
  obtain ⟨samePeers, afterPeers⟩ := peerItems_unique enclosed.peers alsoEnclosed.peers (noTag _)
    (noTag _) (List.append_cancel_left units)
  have fromCode := List.append_cancel_left afterPeers
  rw [← fieldEnds, List.append_assoc, List.append_assoc] at fromCode
  obtain ⟨sameCode, afterCode⟩ :=
    marked_unique fieldEnd_once enclosed.code alsoEnclosed.code fromCode
  have sameStore := List.append_cancel_right (List.append_cancel_left afterCode)
  obtain ⟨peers, code, store⟩ := content
  obtain ⟨otherPeers, otherCode, otherStore⟩ := other
  rw [Content.mk.injEq]
  exact ⟨samePeers, congrArg Text.mk sameCode, congrArg Text.mk sameStore⟩

theorem parts_unmarked :
    ∀ part ∈ [beforePeers, beforeCode, beforeStore, afterStore],
      ¬ (Text.ofString placeMark).units <:+: (Text.ofString part).units := by
  simp only [List.forall_mem_cons, List.not_mem_nil, false_imp_iff, implies_true, and_true,
    Text.ofString, Text.ofChars, placeMark, beforePeers, beforeCode, beforeStore, afterStore,
    String.toList_intercalate, String.toList_append, List.map_cons, List.map_nil]
  -- a literal is a list of characters already, which spares finding them in its bytes
  repeat rw [String.toList_ofList]
  decide +kernel

theorem diagnostics_filled (content : Content) :
    Filled (Text.ofString placeMark).units (Text.ofString template).units
      [(peerItems content.peers).units, content.code.units, content.store.units]
      (diagnostics content).units := by
  have unmarked := parts_unmarked
  simp only [List.forall_mem_cons] at unmarked
  obtain ⟨top, form, store, bottom, _⟩ := unmarked
  rw [units_template, units_diagnostics]
  exact filled_place top (filled_place form (filled_place store (.rest bottom)))

/-- Pages are equal only for equal contents, as long as no peer and no code brings its own end with
it. And every page is the template with its three marks replaced by the items of the peers, the code
and the store contents, whatever these are. -/
theorem diagnostics_tells_contents :
    (∀ content other : Content, content.Enclosed → other.Enclosed →
      (diagnostics content = diagnostics other ↔ content = other)) ∧
    ∀ content : Content,
      Filled (Text.ofString placeMark).units (Text.ofString template).units
        [(peerItems content.peers).units, content.code.units, content.store.units]
        (diagnostics content).units := by
  refine ⟨?_, diagnostics_filled⟩
  intro content other enclosed alsoEnclosed
  exact ⟨diagnostics_injective enclosed alsoEnclosed, congrArg diagnostics⟩

/-- Marks of places and pieces of tags in the values, and a border between peers that moves. -/
theorem awkward_contents_told_apart :
    let left : Content :=
      { peers := ["<!-- PART -->a", "</ul><li>"], code := "</textarea $& <!-- PART -->"
        store := "</textarea></pre>" }
    let right : Content := { left with peers := ["<!-- PART -->", "a</ul><li>"] }
    left.Enclosed ∧ right.Enclosed ∧ diagnostics left ≠ diagnostics right := by
  intro left right
  have enclosed : left.Enclosed := ⟨by decide +kernel, by decide +kernel⟩
  have alsoEnclosed : right.Enclosed := ⟨by decide +kernel, by decide +kernel⟩
  have different : left ≠ right := by decide +kernel
  refine ⟨enclosed, alsoEnclosed, ?_⟩
  intro same
  exact different ((diagnostics_tells_contents.1 left right enclosed alsoEnclosed).mp same)

example : peerItems ["a</li><li>b"] = peerItems ["a", "b"] := by decide +kernel

end Page

end NodeConsole
