import Gamebook.Proofs.Session.Chronicle

/-! The way to a site, stage by stage.

Once the site is known, a way is its fare, the move, and the welcome: the event of the arrival, and
what is shown in the end. The fare is told by payments alone, and the welcome selects one event of the
site, or none where nobody arrives.
-/

set_option autoImplicit false

namespace Gamebook

namespace Happening

def isPayment : Happening → Bool
  | .passed _ | .mutated _ | .reported _ _ => true
  | _ => false

/-- The site whose arrival a happening tells of. -/
def arrival? : Happening → Option String
  | .arrived site => some site
  | _ => none

end Happening

/-- Whether coming from one site to another counts as an arrival. -/
def Setting.arrives (s : Setting) (departure : String) (site : Site) : Bool :=
  !(s.config.travel.suppressSelfArrival && departure == site.id)

def State.charge (state : State) (cost : Cost) : State :=
  { state with days := state.days + cost.days, status := state.status.add .money (-cost.money) }

def World.selected (w : World) (site : Site) (dice : Dice) : World :=
  { w with game := { w.game.record (.arrived site.id) with dice } }

namespace Play

theorem onlyIf_true (play : Play Unit) : onlyIf true play = play := rfl

theorem onlyIf_false (play : Play Unit) : onlyIf false play = pure () := rfl

variable (s : Setting) (perform : Action → Play Unit)

def welcome (site : Site) (arrives : Bool) : Play Unit := do
  let revision := (← game).revision
  onlyIf arrives (discard (arrive s perform site))
  refresh s true ((← game).revision == revision)

def passage (site : Site) (instantly : Bool) : Play Unit := do
  let departure := (← game).state.site
  onlyIf (!instantly) (payLeg s departure site)
  update (·.moveTo site.id)
  welcome s perform site (s.arrives departure site)

theorem goTo_eq_passage (id : Value) (instantly : Bool) :
    goTo s perform id instantly =
      liftFault (s.script.site id) >>= fun site => passage s perform site instantly := rfl

variable {s perform}

theorem goTo_of_found {id : Value} {site : Site} (found : s.script.site id = .ok site)
    (instantly : Bool) : goTo s perform id instantly = passage s perform site instantly := by
  rw [goTo_eq_passage, found, liftFault_ok, pure_bind]

theorem dispatch_travel (depth : Nat) (target : Value) :
    dispatch s (depth + 1) (.direct (travel target)) = goTo s (dispatch s depth) target false := by
  change (do
    goTo s (dispatch s depth) target false
    return Gamebook.Reply.nothing) >>= (fun _ => pure ()) = _
  simp

theorem outcome_passage (site : Site) (instantly : Bool) (w : World) :
    outcome (passage s perform site instantly) w =
      match outcome (onlyIf (!instantly) (payLeg s w.game.state.site site)) w with
      | (.ok _, u) =>
        outcome (welcome s perform site (s.arrives w.game.state.site site))
          { u with game := u.game.moveTo site.id }
      | (.error stop, u) => (.error stop, u) := by
  unfold passage
  rw [outcome_game_bind, outcome_bind]
  rcases outcome (onlyIf (!instantly) (payLeg s w.game.state.site site)) w with ⟨answer, u⟩
  cases answer with
  | error stop => rfl
  | ok _ => exact outcome_update_bind _ _ u

theorem isWritable_neg (n : Int) : (Value.int (-n)).isWritable = (Value.int n).isWritable := by
  simp [Value.isWritable, Value.isWritableWithin]

/-- Days that are not negative pass, and are told of if there are any. -/
theorem outcome_pass {days : Int} (forward : 0 ≤ days) (w : World) :
    ∃ fare u, (∀ h ∈ fare, h.isPayment = true) ∧ w.game.Grows fare u.game ∧
      u.game.state = { w.game.state with days := w.game.state.days + days } ∧
      outcome (onlyIf (days != 0) (attempt (·.pass days))) w = (.ok (), u) := by
  by_cases none : days = 0
  · subst none
    refine ⟨[], w, by simp, .refl _, ?_, rfl⟩
    rw [Int.add_zero]
  · have given : (days != 0) = true := by simpa using none
    have passed : w.game.pass days = .ok ({ w.game with
        state := { w.game.state with days := w.game.state.days + days } }.record (.passed days)) := by
      unfold Game.pass State.advance
      rw [if_neg (Int.not_lt.2 forward)]
      rfl
    rw [given, onlyIf_true, outcome_attempt, passed]
    exact ⟨[.passed days], _, by simp [Happening.isPayment], (w.game.grows_pass passed).2, rfl, rfl⟩

theorem exists_mutate_money (g : Game) (money : Int) (reason : String) :
    ∃ m g', g.mutate (.text Counter.money.name) (.int (-money)) (.text reason) = .ok (m, g') ∧
      g'.state = { g.state with status := g.state.status.add .money (-money) } ∧
      m.isWritable = (Value.int money).isWritable := by
  refine ⟨_, _, rfl, rfl, ?_⟩
  rw [← isWritable_neg money]
  exact Bool.and_true _

/-- Money is taken even where the change cannot be written. -/
theorem outcome_spend (money : Int) (reason : String) (w : World) :
    ∃ fare u, (∀ h ∈ fare, h.isPayment = true) ∧ w.game.Grows fare u.game ∧
      u.game.state = { w.game.state with status := w.game.state.status.add .money (-money) } ∧
      outcome (onlyIf (money != 0)
          (mutate s (.text Counter.money.name) (.int (-money)) (.text reason))) w =
        (if (Value.int money).isWritable then .ok () else .error (.fault .badNumeral), u) := by
  by_cases none : money = 0
  · subst none
    refine ⟨[], w, by simp, .refl _, ?_, ?_⟩
    · simp [Status.add, Status.set, Status.get]
    · rw [if_pos (Value.isWritable_of_not_isTruthy rfl)]
      rfl
  · have given : (money != 0) = true := by simpa using none
    obtain ⟨m, g, changed, poorer, writes⟩ := exists_mutate_money w.game money reason
    have grown := w.game.grows_mutate changed
    rw [given, onlyIf_true, outcome_mutate, changed]
    dsimp only
    rw [writes]
    by_cases writable : (Value.int money).isWritable = true
    · rw [if_pos writable, if_pos writable]
      exact ⟨_, _, by simp [Happening.isPayment],
        grown.trans (g.grows_report s.config.text.labels m), poorer, rfl⟩
    · rw [if_neg writable, if_neg writable]
      exact ⟨_, _, by simp [Happening.isPayment], grown, poorer, rfl⟩

/-- A fare is taken as a whole, and then it may be that its money cannot be written. -/
theorem outcome_pay {cost : Cost} (forward : 0 ≤ cost.days) (w : World) :
    ∃ fare u, (∀ h ∈ fare, h.isPayment = true) ∧ w.game.Grows fare u.game ∧
      u.game.state = w.game.state.charge cost ∧
      outcome (pay s cost) w =
        (if (Value.int cost.money).isWritable then .ok () else .error (.fault .badNumeral), u) := by
  obtain ⟨first, v, passes, grown, later, passed⟩ := outcome_pass forward w
  obtain ⟨rest, u, spends, grows, poorer, spent⟩ :=
    outcome_spend (s := s) cost.money s.config.text.travelReason v
  refine ⟨first ++ rest, u, ?_, grown.trans grows, ?_, ?_⟩
  · intro h member
    rcases List.mem_append.1 member with member | member
    · exact passes h member
    · exact spends h member
  · rw [poorer, later]
    rfl
  · unfold pay
    rw [outcome_bind, passed]
    exact spent

theorem offerExits_eq_ok {w v : World} (done : outcome (offerExits s) w = (.ok (), v)) :
    ∃ site choices, s.script.findSite? w.game.state.site = some site ∧
      menu s w.game.state site = .ok choices ∧
      v = { w with game := w.game.offer (.exits site.id) choices } := by
  rw [outcome_offerExits] at done
  split at done
  · cases done
  · rename_i site here
    split at done
    · rename_i choices listed
      cases done
      exact ⟨site, choices, here, listed, rfl⟩
    · cases done

theorem outcome_refresh (options : Bool) (w : World) :
    outcome (refresh s true options) w =
      outcome (onlyIf options (offerExits s)) { w with game := w.game.showState } := by
  unfold refresh
  exact outcome_update_bind _ _ w

/-- A refresh changes nothing of the state, and nobody arrives in it, however it ends. -/
theorem grows_refresh (options : Bool) (w : World) :
    ∃ ending, w.game.Grows ending (outcome (refresh s true options) w).2.game ∧
      ending.filterMap Happening.arrival? = [] ∧
      (outcome (refresh s true options) w).2.game.state = w.game.state := by
  rw [outcome_refresh]
  have shown := w.game.grows_showState
  cases options with
  | false => exact ⟨_, shown, rfl, rfl⟩
  | true =>
    rw [onlyIf_true, outcome_offerExits]
    split
    · exact ⟨_, shown, rfl, rfl⟩
    · split
      · exact ⟨_, shown.trans (w.game.showState.grows_offer _ _), rfl, rfl⟩
      · exact ⟨_, shown, rfl, rfl⟩

theorem outcome_discard {α : Type} (play : Play α) (w : World) :
    outcome (discard play) w =
      match outcome play w with
      | (.ok _, v) => (.ok (), v)
      | (.error stop, v) => (.error stop, v) := by
  change outcome ((fun _ => ()) <$> play) w = _
  rw [← bind_pure_comp, outcome_bind]
  rfl

theorem outcome_arrive (site : Site) (w : World) :
    outcome (arrive s perform site) w =
      match Event.select site.events w.game.dice with
      | .error fault => (.error (.fault fault), { w with game := w.game.record (.arrived site.id) })
      | .ok (event?, dice) =>
        match outcome (fire s perform event?) (w.selected site dice) with
        | (.ok _, v) => (.ok event?, v)
        | (.error stop, v) => (.error stop, v) := by
  unfold arrive
  rw [outcome_bind, outcome_draw]
  dsimp only
  cases Event.select site.events w.game.dice with
  | error fault => rfl
  | ok drawn =>
    obtain ⟨event?, dice⟩ := drawn
    dsimp only
    rw [outcome_bind]
    unfold World.selected
    generalize outcome (fire s perform event?) _ = fired
    obtain ⟨answer, v⟩ := fired
    cases answer <;> rfl

/-- Where somebody arrives, one event is selected, and shown is what it leaves. -/
theorem outcome_welcome (site : Site) (w : World) :
    outcome (welcome s perform site true) w =
      match Event.select site.events w.game.dice with
      | .error fault => (.error (.fault fault), { w with game := w.game.record (.arrived site.id) })
      | .ok (event?, dice) =>
        match outcome (fire s perform event?) (w.selected site dice) with
        | (.ok _, v) => outcome (refresh s true (v.game.revision == w.game.revision)) v
        | (.error stop, v) => (.error stop, v) := by
  unfold welcome
  rw [outcome_game_bind, outcome_bind, onlyIf_true, outcome_discard, outcome_arrive]
  cases Event.select site.events w.game.dice with
  | error fault => rfl
  | ok drawn =>
    obtain ⟨event?, dice⟩ := drawn
    dsimp only
    rcases outcome (fire s perform event?) (w.selected site dice) with ⟨answer, v⟩
    cases answer <;> rfl

theorem unfolds_welcome (performed : ∀ action, Obeys (Unfolds s) (perform action)) {site : Site}
    (listed : s.script.findSite? site.id = some site) (arrives : Bool) :
    Obeys (Unfolds s) (welcome s perform site arrives) := by
  have rules := Unfolds.rules s
  have arrival := rules.map (rules.arrive performed site listed) fun _ => ()
  intro w
  apply heeds_game_bind
  refine rules.seq (rules.onlyIf arrival _) (fun _ v => ?_) w
  apply heeds_game_bind
  exact rules.refresh _ _ v

theorem outcome_welcome_quiet (site : Site) (w : World) :
    outcome (welcome s perform site false) w = outcome (refresh s true true) w := by
  unfold welcome
  rw [outcome_game_bind, onlyIf_false, pure_bind, outcome_game_bind, beq_self_eq_true]

end Play

end Gamebook
