import Gamebook.Proofs.Session.Chronicle

/-! Histories in which each change of site is followed by an offer, or by a fault that was caught.

Only going to a site changes it, and it offers the exits unless something else has been offered
meanwhile. A way that fails after the change offers nothing; where a routine catches its fault, the
session goes on with the panel of before. So every run that ends well leaves such a history behind.
-/

set_option autoImplicit false

namespace Gamebook

open Play

/-- An offer settles the moves before it, and so does a fault that is caught. -/
def Happening.settles (h : Happening) : Bool :=
  h.offer?.isSome || h.isCaught

def Settled : List Happening → Prop
  | [] => True
  | h :: rest => (h.isMove = true → ∃ later ∈ rest, later.settles = true) ∧ Settled rest

namespace Settled

variable {first rest : List Happening}

theorem of_no_move (still : ∀ h ∈ first, h.isMove = false) : Settled first := by
  induction first with
  | nil => trivial
  | cons h first ih =>
    constructor
    · intro move
      rw [still h (by simp)] at move
      cases move
    · exact ih fun later member => still later (by simp [member])

theorem append (early : Settled first) (late : Settled rest) : Settled (first ++ rest) := by
  induction first with
  | nil => exact late
  | cons h first ih =>
    obtain ⟨followed, early⟩ := early
    constructor
    · intro move
      obtain ⟨later, member, offers⟩ := followed move
      exact ⟨later, by simp [member], offers⟩
    · exact ih early

theorem append_of_settles (late : Settled rest) (settled : ∃ h ∈ rest, h.settles = true) :
    Settled (first ++ rest) := by
  induction first with
  | nil => exact late
  | cons h first ih =>
    obtain ⟨later, member, settles⟩ := settled
    constructor
    · intro _
      exact ⟨later, by simp [member], settles⟩
    · exact ih

end Settled

namespace State

end State

namespace Play

variable {s : Setting}

/-- Going to a site pays, moves, arrives and refreshes. What is shown at the end depends on whether
the panel has been replaced since the move. -/
theorem goTo_eq_ok {perform : Action → Play Unit} {id : Value} {instantly : Bool} {w v : World}
    (done : outcome (goTo s perform id instantly) w = (.ok (), v)) :
    ∃ arrival u x, s.script.site id = .ok arrival ∧
      outcome (onlyIf (!instantly) (payLeg s w.game.state.site arrival)) w = (.ok (), u) ∧
      outcome (onlyIf (!(s.config.travel.suppressSelfArrival && w.game.state.site == arrival.id))
        (discard (arrive s perform arrival))) { u with game := u.game.moveTo arrival.id } =
        (.ok (), x) ∧
      outcome (refresh s true (x.game.revision == u.game.revision)) x = (.ok (), v) := by
  unfold goTo at done
  obtain ⟨arrival, here, looked, done⟩ := outcome_bind_eq_ok done
  obtain ⟨found, rfl⟩ := liftFault_eq_ok looked
  rw [outcome_game_bind] at done
  obtain ⟨_, u, paid, done⟩ := outcome_bind_eq_ok done
  rw [outcome_update_bind, outcome_game_bind] at done
  obtain ⟨_, x, arrived, done⟩ := outcome_bind_eq_ok done
  rw [outcome_game_bind] at done
  exact ⟨arrival, u, x, found, paid, arrived, done⟩

theorem refresh_eq_ok {state : Bool} {w v : World}
    (done : outcome (refresh s state true) w = (.ok (), v)) :
    ∃ between site choices, w.game.Grows (between ++ [.offered (.exits site) choices]) v.game ∧
      ∀ h ∈ between, h.isMove = false := by
  unfold refresh at done
  obtain ⟨_, u, shown, done⟩ := outcome_bind_eq_ok done
  have early : ∃ between, w.game.Grows between u.game ∧ ∀ h ∈ between, h.isMove = false := by
    cases state with
    | false =>
      cases shown
      exact ⟨[], .refl _, by simp⟩
    | true =>
      cases shown
      exact ⟨_, w.game.grows_showState, by simp [Happening.isMove]⟩
  obtain ⟨between, grown, still⟩ := early
  change outcome (offerExits s) u = _ at done
  rw [outcome_offerExits] at done
  split at done
  · cases done
  · rename_i site _
    split at done
    · rename_i choices _
      cases done
      exact ⟨between, site.id, choices, grown.trans (u.game.grows_offer _ _), still⟩
    · cases done

end Play

/-- A world leads to another, with a history in between that is settled if nothing has stopped the run. -/
def Settles (s : Setting) (w : World) (stop : Option Stop) (v : World) : Prop :=
  ∃ between, Chronicle s w.game.state between ∧ w.game.Grows between v.game ∧
    (stop = none → Settled between)

namespace Settles

variable {s : Setting}

theorem of_stays (w : World) (stop : Option Stop) (v : World) (stays : Stays s w stop v) :
    Settles s w stop v := by
  obtain ⟨between, chronicle, grown, still⟩ := stays
  exact ⟨between, chronicle, grown, fun _ => .of_no_move still⟩

theorem unfolds (w : World) (stop : Option Stop) (v : World) (settles : Settles s w stop v) :
    Unfolds s w stop v := by
  obtain ⟨between, chronicle, grown, -⟩ := settles
  exact ⟨between, chronicle, grown⟩

theorem composes (s : Setting) : Composes (Settles s) where
  still _ := ⟨[], .nil _, .refl _, fun _ => trivial⟩
  trans := by
    rintro u v w stop ⟨first, early, grown, settled⟩ ⟨rest, late, grows, settles⟩
    rw [grown.state] at late
    exact ⟨first ++ rest, early.append late, grown.trans grows,
      fun ended => (settled rfl).append (settles ended)⟩
  caught := by
    rintro u v stop fault ⟨between, chronicle, grown, -⟩
    have last : Chronicle s (u.game.state.replay between) [.caught fault] := .cons trivial (.nil _)
    have alone : Settled [.caught fault] := .of_no_move (by simp [Happening.isMove])
    -- whatever was left unsettled, the fault that is caught settles
    exact ⟨between ++ [.caught fault], chronicle.append last, grown.trans (v.game.grows_caught fault),
      fun _ => .append_of_settles alone ⟨.caught fault, by simp, rfl⟩⟩

theorem rules (s : Setting) : Rules s (Settles s) :=
  (Stays.rules s).weaken (composes s) of_stays

theorem goTo_grows {perform : Action → Play Unit}
    (performed : ∀ action, Obeys (Settles s) (perform action)) {id : Value} {instantly : Bool}
    {w v : World} (done : outcome (goTo s perform id instantly) w = (.ok (), v)) :
    ∃ arrival before after, s.script.site id = .ok arrival ∧
      w.game.Grows (before ++ .moved arrival.id :: after) v.game ∧
      (∀ h ∈ before, h.isMove = false) ∧
      Settled after ∧ ∃ h ∈ after, h.offer?.isSome = true := by
  obtain ⟨arrival, u, x, found, paid, arrived, shown⟩ := goTo_eq_ok done
  have pays : Obeys (Stays s) (onlyIf (!instantly) (payLeg s w.game.state.site arrival)) :=
    (Stays.composes s).onlyIf (Stays.payLeg _ _) _
  have arrives : Obeys (Settles s) (discard (arrive s perform arrival)) :=
    (composes s).map ((rules s).arrive performed arrival (Script.findSite?_of_site found).2) fun _ => ()
  obtain ⟨before, -, grown, still⟩ := pays.of_outcome paid
  obtain ⟨between, -, grows, settles⟩ := ((composes s).onlyIf arrives _).of_outcome arrived
  have settled : Settled between := settles rfl
  have onward := grown.trans (u.game.grows_moveTo arrival.id)
  cases same : x.game.revision == u.game.revision with
  | true =>
    -- nothing has been offered since the move, so the exits are
    rw [same] at shown
    obtain ⟨ending, site, choices, ended, stays⟩ := refresh_eq_ok shown
    refine ⟨arrival, before, between ++ (ending ++ [.offered (.exits site) choices]), found, ?_,
      still, ?_, ?_⟩
    · simpa using onward.trans (grows.trans ended)
    · refine settled.append (.of_no_move fun h member => ?_)
      rcases List.mem_append.1 member with member | member
      · exact stays h member
      · rw [List.mem_singleton.1 member]
        rfl
    · exact ⟨.offered (.exits site) choices, by simp, rfl⟩
  | false =>
    -- the panel has been replaced since the move, so `between` holds an offer
    have renewed : between.filterMap Happening.offer? ≠ [] := by
      intro none
      have revision : x.game.revision = u.game.revision + _ := grows.revision
      rw [none] at revision
      simp [revision] at same
    obtain ⟨offer, member⟩ := List.exists_mem_of_ne_nil _ renewed
    obtain ⟨h, within, offers⟩ := List.mem_filterMap.1 member
    obtain ⟨ending, -, ended, settles⟩ := ((rules s).refresh _ _).of_outcome shown
    refine ⟨arrival, before, between ++ ending, found, ?_, still, settled.append (settles rfl), h,
      by simp [within], ?_⟩
    · simpa using onward.trans (grows.trans ended)
    · rw [offers]
      rfl

theorem law (s : Setting) : Law s (Settles s) :=
  { rules s with
    goTo := by
      intro perform performed id instantly w
      obtain ⟨between, chronicle, grown⟩ :=
        (Unfolds.law s).goTo (fun action => (performed action).mono unfolds) id instantly w
      refine ⟨between, chronicle, grown, fun ended => ?_⟩
      rcases run : outcome (goTo s perform id instantly) w with ⟨answer, v⟩
      rw [run] at ended grown
      cases answer with
      | error stop => cases ended
      | ok _ =>
        obtain ⟨arrival, before, after, -, grows, -, settled, later, member, offers⟩ :=
          goTo_grows performed run
        have whole : between = (before ++ [.moved arrival.id]) ++ after := by
          simpa using List.append_cancel_left (grown.history.symm.trans grows.history)
        rw [whole]
        exact .append_of_settles settled ⟨later, member, by simp [Happening.settles, offers]⟩ }

end Settles

end Gamebook
