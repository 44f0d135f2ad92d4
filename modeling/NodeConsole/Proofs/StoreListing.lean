import NodeConsole.Page.StoreListing

/-!
Listings laid out by a rule for whole separators: where a bar stands between two spaces, the second
space becomes a line end (`layOutStore_eq`).
-/

namespace NodeConsole

namespace Page

/-- A listing with a line end behind every bar that stands between two spaces. -/
def breakLines : List UInt16 → List UInt16
  | 0x20 :: 0x7C :: 0x20 :: rest => space :: bar :: lineEnd :: breakLines rest
  | unit :: rest => unit :: breakLines rest
  | [] => []

def Matched.units : Matched → List UInt16
  | .nothing => []
  | .space => [Page.space]
  | .spaceBar => [Page.space, bar]

theorem breakLines_cons {unit : UInt16} {rest : List UInt16}
    (alone : ¬ [space, bar, space] <+: unit :: rest) :
    breakLines (unit :: rest) = unit :: breakLines rest := by
  rw [breakLines]
  rintro others rfl rfl
  exact alone ⟨others, rfl⟩

theorem breakLines_ended (matched : Matched) {unit : UInt16} (notSpace : unit ≠ space)
    (notBar : matched = .space → unit ≠ bar) (rest : List UInt16) :
    breakLines (matched.units ++ unit :: rest) = matched.units ++ unit :: breakLines rest := by
  have last : breakLines (unit :: rest) = unit :: breakLines rest :=
    breakLines_cons (by simp [Ne.symm notSpace])
  cases matched with
  | nothing => exact last
  | space =>
      have first : breakLines (space :: unit :: rest) = space :: breakLines (unit :: rest) :=
        breakLines_cons (by simp [Ne.symm (notBar rfl)])
      exact first.trans (congrArg (space :: ·) last)
  | spaceBar =>
      have first : breakLines (space :: bar :: unit :: rest) =
          space :: breakLines (bar :: unit :: rest) :=
        breakLines_cons (by simp [Ne.symm notSpace])
      have second : breakLines (bar :: unit :: rest) = bar :: breakLines (unit :: rest) :=
        breakLines_cons (by simp [space, bar])
      exact first.trans (congrArg (space :: ·) (second.trans (congrArg (bar :: ·) last)))

theorem layOutFrom_eq (matched : Matched) (done units : List UInt16) :
    layOutFrom matched (matched.units.reverse ++ done) units =
      done.reverse ++ breakLines (matched.units ++ units) := by
  -- what is matched is already in front of `done`, and may yet belong to a separator
  induction units generalizing matched done with
  | nil => cases matched <;> simp [layOutFrom, Matched.units, breakLines]
  | cons unit rest ih =>
      have settled (laid : List UInt16)
          (ends : breakLines (matched.units ++ unit :: rest) = laid ++ breakLines rest) :
          layOutFrom .nothing (laid.reverse ++ done) rest =
            done.reverse ++ breakLines (matched.units ++ unit :: rest) := by
        have later := ih .nothing (laid.reverse ++ done)
        rw [ends, ← List.append_assoc]
        simpa [Matched.units] using later
      by_cases isSpace : unit = space
      · subst isSpace
        cases matched with
        | nothing => exact ih .space done
        | space =>
            have apart : breakLines (space :: space :: rest) =
                space :: breakLines (space :: rest) :=
              breakLines_cons (by simp [space, bar])
            have later := ih .space (space :: done)
            rw [List.reverse_cons, List.append_assoc] at later
            exact later.trans (congrArg (done.reverse ++ ·) apart.symm)
        | spaceBar => exact settled [space, bar, lineEnd] rfl
      · by_cases carries : unit = bar ∧ matched = .space
        · obtain ⟨rfl, rfl⟩ := carries
          exact ih .spaceBar done
        · have ended :=
            breakLines_ended matched isSpace (fun same isBar => carries ⟨isBar, same⟩) rest
          have laid := settled (matched.units ++ [unit]) (by rw [ended, List.append_cons])
          have step : layOutUnit matched unit = (.nothing, unit) := by
            rw [layOutUnit, if_neg isSpace, if_neg carries]
          rw [List.reverse_append] at laid
          rw [layOutFrom, step]
          exact laid

theorem layOutStore_eq (listing : Text) : layOutStore listing = ⟨breakLines listing.units⟩ :=
  congrArg Text.mk (layOutFrom_eq .nothing [] listing.units)

end Page

end NodeConsole
