import Gamebook.Proofs.Play.Frame
import Gamebook.Proofs.Play.Passage
import Gamebook.Proofs.Play.Selection
import Gamebook.Proofs.Session.Run

/-! The numbers that a session takes from its dice.

Nothing but selecting the event of an arrival takes a number, and it takes one just where two or more
positive weights compete. So the arrivals of a session, in their order, tell by which number of the dice
each of them has been decided.
-/

set_option autoImplicit false

namespace Gamebook

open Play

/-- The sites at which a session has arrived, in order. -/
def Game.arrivals (g : Game) : List String := g.history.filterMap Happening.arrival?

def Script.takesNumber (script : Script) (id : String) : Bool :=
  (script.findSite? id).any fun site => Event.takesNumber site.events

def Script.numbers (script : Script) (places : List String) : Nat := places.countP script.takesNumber

namespace Script

variable {script : Script}

theorem takesNumber_of_listed {site : Site} (listed : script.findSite? site.id = some site) :
    script.takesNumber site.id = Event.takesNumber site.events := by
  rw [takesNumber, listed, Option.any_some]

theorem numbers_append (first rest : List String) :
    script.numbers (first ++ rest) = script.numbers first + script.numbers rest :=
  List.countP_append

end Script

/-- The event of a site is selected after the arrivals `before`, counted from `w`, and the arrivals `after`
lead on to `v`. The dice are left to it and by it as these arrivals take numbers from them. -/
structure SelectedAt (s : Setting) (w v : World) (before after : List String) (site : Site) (u : World) :
    Prop where
  listed : s.script.findSite? site.id = some site
  arrivals : u.game.arrivals = w.game.arrivals ++ before
  dice : u.game.dice = w.game.dice.skip (s.script.numbers before)
  later : v.game.arrivals = (outcome (draw site) u).2.game.arrivals ++ after
  left : v.game.dice = (outcome (draw site) u).2.game.dice.skip (s.script.numbers after)

namespace SelectedAt

variable {s : Setting} {t u v w : World} {before after : List String} {site : Site}

theorem of_later {first : List String} (arrived : v.game.arrivals = u.game.arrivals ++ first)
    (taken : v.game.dice = u.game.dice.skip (s.script.numbers first))
    (selected : SelectedAt s v w before after site t) :
    SelectedAt s u w (first ++ before) after site t where
  listed := selected.listed
  arrivals := by rw [selected.arrivals, arrived, List.append_assoc]
  dice := by rw [selected.dice, taken, Script.numbers_append, Dice.skip_add]
  later := selected.later
  left := selected.left

theorem of_earlier {rest : List String} (arrives : w.game.arrivals = v.game.arrivals ++ rest)
    (takes : w.game.dice = v.game.dice.skip (s.script.numbers rest))
    (selected : SelectedAt s u v before after site t) :
    SelectedAt s u w before (after ++ rest) site t where
  listed := selected.listed
  arrivals := selected.arrivals
  dice := selected.dice
  later := by rw [arrives, selected.later, List.append_assoc]
  left := by rw [takes, selected.left, Script.numbers_append, Dice.skip_add]

end SelectedAt

/-- What the arrivals of a run have taken from the dice, one by one. -/
def Draws (s : Setting) (w : World) (_ : Option Stop) (v : World) : Prop :=
  ∃ places, v.game.arrivals = w.game.arrivals ++ places ∧
    v.game.dice = w.game.dice.skip (s.script.numbers places) ∧
    ∀ before id after, places = before ++ id :: after →
      ∃ site u, site.id = id ∧ SelectedAt s w v before after site u

namespace Play

theorem framed_dice : Framed fun w => (w.game.dice, w.game.arrivals) where
  say w text types := by simp [Game.arrivals, Game.say, Game.record, Game.write, Happening.arrival?]
  offer w origin choices := by simp [Game.arrivals, Game.offer, Game.record, Happening.arrival?]
  showState w := by simp [Game.arrivals, Game.showState, Game.record, Happening.arrival?]
  moveTo w site := by simp [Game.arrivals, Game.moveTo, Game.record, Happening.arrival?]
  pass w days g passed := by
    obtain ⟨state, -, made⟩ := bind_eq_ok passed
    cases made
    simp [Game.arrivals, Game.record, Happening.arrival?]
  mutate w key delta reason m g mutated := by
    obtain ⟨⟨mutation, state⟩, -, made⟩ := bind_eq_ok mutated
    cases made
    simp [Game.arrivals, Game.record, Happening.arrival?]
  report w m line := by simp [Game.arrivals, Game.record, Game.write, Happening.arrival?]
  caught w fault := by simp [Game.arrivals, Game.record, Happening.arrival?]

end Play

namespace Draws

variable {s : Setting}

theorem of_keeps (w : World) (stop : Option Stop) (v : World)
    (kept : Keeps (fun w => (w.game.dice, w.game.arrivals)) w stop v) : Draws s w stop v := by
  obtain ⟨dice, arrivals⟩ := Prod.mk.inj kept
  refine ⟨[], by rw [arrivals, List.append_nil], dice, fun before id after split => ?_⟩
  simp at split

theorem trans {u v w : World} {ended stop : Option Stop} (first : Draws s u ended v)
    (second : Draws s v stop w) : Draws s u stop w := by
  obtain ⟨first, early, taken, each⟩ := first
  obtain ⟨rest, late, takes, others⟩ := second
  refine ⟨first ++ rest, by rw [late, early, List.append_assoc], ?_, ?_⟩
  · rw [takes, taken, Script.numbers_append, Dice.skip_add]
  · intro before id after split
    rcases List.append_eq_append_iff.1 split with ⟨between, rfl, rest⟩ | ⟨between, rfl, rest⟩
    · obtain ⟨site, x, own, selected⟩ := others between id after rest
      exact ⟨site, x, own, selected.of_later early taken⟩
    · cases between with
      | nil =>
        obtain ⟨site, x, own, selected⟩ := others [] id after rest.symm
        have shifted := selected.of_later early taken
        simp only [List.append_nil] at shifted ⊢
        exact ⟨site, x, own, shifted⟩
      | cons head between =>
        obtain ⟨rfl, rfl⟩ := List.cons.inj rest
        obtain ⟨site, x, own, selected⟩ := each before _ between rfl
        exact ⟨site, x, own, selected.of_earlier late takes⟩

theorem composes (s : Setting) : Composes (Draws s) where
  still w := of_keeps w none w rfl
  trans := trans
  caught fault first := first.trans (of_keeps _ _ _ (framed_dice.caught _ fault))

theorem draw {site : Site} (listed : s.script.findSite? site.id = some site) :
    Obeys (Draws s) (draw site) := by
  intro w
  have one : (outcome (Play.draw site) w).2.game.arrivals = w.game.arrivals ++ [site.id] ∧
      (outcome (Play.draw site) w).2.game.dice = w.game.dice.skip (s.script.numbers [site.id]) := by
    rw [outcome_draw, Script.numbers, List.countP_singleton, Script.takesNumber_of_listed listed]
    dsimp only
    cases takes : Event.takesNumber site.events with
    | true =>
      rw [Event.select_of_takesNumber takes]
      exact ⟨by simp [Game.arrivals, Game.record, Happening.arrival?], rfl⟩
    | false =>
      rcases Event.select_of_not_takesNumber takes with ⟨event?, selects⟩ | unbounded
      · rw [selects]
        exact ⟨by simp [Game.arrivals, Game.record, Happening.arrival?], rfl⟩
      · rw [unbounded]
        exact ⟨by simp [Game.arrivals, Game.record, Happening.arrival?], rfl⟩
  refine ⟨[site.id], one.1, one.2, fun before id after split => ?_⟩
  obtain ⟨rfl, rfl, rfl⟩ : before = [] ∧ site.id = id ∧ after = [] := by
    cases before with
    | nil =>
      obtain ⟨rfl, rest⟩ := List.cons.inj split
      exact ⟨rfl, rfl, rest.symm⟩
    | cons head before => simp at split
  exact ⟨site, w, rfl, listed, (List.append_nil _).symm, rfl, (List.append_nil _).symm, rfl⟩

theorem law (s : Setting) : Law s (Draws s) :=
  framed_dice.law (composes s) of_keeps (fun _ listed => draw listed) fun _ _ w =>
    of_keeps w _ _ rfl

end Draws

namespace Setting

theorem draws_after (s : Setting) (w : World) (operations : List Operation) :
    Draws s w none (s.after w operations) := by
  induction operations generalizing w with
  | nil => exact (Draws.composes s).still w
  | cons o rest ih => exact (Draws.composes s).trans ((Draws.law s).within o.depth o.command w) (ih _)

/-- Only the positive weights matter to a selection, where they have a finite sum. If there are any, one of
their events is selected, by one number of the dice if two or more compete and without any if not, and
events that are put in or left out change nothing if their weights are not positive. If there are none, no
number is taken, and an event is selected only if it is alone. In a session nothing else takes numbers:
whatever is done with it, and however its operations end, each arrival that needs a number is decided by
the one whose place is told by the arrivals before it. -/
theorem draws_in_order (s : Setting) :
    (∀ events : List Event, Event.hasFiniteTotal events = true → ∀ dice : Dice,
      ((∃ e ∈ events, 0 < e.weight) →
        (∃ event ∈ events, 0 < event.weight ∧
          Event.select events dice =
            .ok (some event, dice.skip (if 2 ≤ (events.filter Event.isWeighted).length then 1 else 0))) ∧
        ∀ before idle after, events = before ++ after →
          (∀ e ∈ idle, e.weight ≤ 0 ∨ e.weight.isNaN = true) →
          Event.select (before ++ idle ++ after) dice = Event.select events dice) ∧
      ((∀ e ∈ events, ¬0 < e.weight) →
        Event.select events dice = .ok (if events.length = 1 then events.head? else none, dice))) ∧
    ∀ (registry : Registry Routine) (dice : Dice) (operations : List Operation),
      let start := s.newWorld registry dice
      let now := s.after start operations
      now.game.dice = dice.skip (s.script.numbers now.game.arrivals) ∧
      ∀ before id after, now.game.arrivals = before ++ id :: after →
        ∃ site u, site.id = id ∧ SelectedAt s start now before after site u ∧
          (Event.takesNumber site.events = true →
            (outcome (draw site) u).1 =
              .ok (Event.atNumber site.events (dice.nth (s.script.numbers before)))) ∧
          (Event.takesNumber site.events = false →
            (outcome (draw site) u).2.game.dice = u.game.dice) := by
  refine ⟨fun events finite dice => ⟨fun positive => ?_, fun none => ?_⟩,
    fun registry dice operations => ?_⟩
  · have weighty : events.filter Event.isWeighted ≠ [] := by
      obtain ⟨e, member, weight⟩ := positive
      exact List.ne_nil_of_mem (List.mem_filter.2 ⟨member, Event.isWeighted_iff.2 weight⟩)
    refine ⟨Event.exists_select_positive finite weighty dice, ?_⟩
    rintro before idle after rfl weightless
    exact Event.select_insert weighty
      (fun e member => (Event.not_pos_iff e.weight).2 (weightless e member)) dice
  · have gone : events.filter Event.isWeighted = [] :=
      List.filter_eq_nil_iff.2 fun e member weighted => none e member (Event.isWeighted_iff.1 weighted)
    exact Event.select_of_none gone dice
  · intro start now
    obtain ⟨places, arrivals, taken, each⟩ := s.draws_after start operations
    have whole : now.game.arrivals = places := arrivals
    rw [whole]
    refine ⟨taken, fun before id after split => ?_⟩
    obtain ⟨site, u, own, selected⟩ := each before id after split
    refine ⟨site, u, own, selected, fun takes => ?_, fun takes => ?_⟩
    · have left : u.game.dice = dice.skip (s.script.numbers before) := selected.dice
      rw [outcome_draw, Event.select_of_takesNumber takes, left]
      rfl
    · rw [outcome_draw]
      dsimp only
      rcases Event.select_of_not_takesNumber takes with ⟨event?, selects⟩ | unbounded
      · rw [selects]
      · rw [unbounded]
        rfl

end Setting

def Script.rainyFord : Script where
  sites := [
    { id := "ford", name := "Ford"
      events := [{ id := "fair", weight := 1 }, { id := "still" }, { id := "rain", weight := 3 }] }]
  events := []
  entry := { site := "ford" }

/-- Who comes to the ford twice is met by the weather of the first number, then by that of the second. -/
theorem Setting.draws_in_order_rainyFord :
    let s : Setting := { script := .rainyFord, cost := .flat 1 0 }
    let dice := Dice.ofList [0.5, 0.125]
    let stay : Operation := { command := .goTo "ford" false, depth := 0 }
    let now := s.after (s.newWorld .empty dice) [stay, stay]
    now.game.arrivals = ["ford", "ford"] ∧ now.game.dice = dice.skip 2 ∧
      ∃ site u, s.script.findSite? "ford" = some site ∧ u.game.arrivals = ["ford"] ∧
        (outcome (draw site) u).1 = .ok (Event.atNumber site.events (dice.nth 1)) := by
  intro s dice stay now
  have arrivals : now.game.arrivals = ["ford", "ford"] := by decide +kernel
  have takes : s.script.takesNumber "ford" = true := by decide +kernel
  obtain ⟨-, session⟩ := draws_in_order s
  obtain ⟨taken, each⟩ := session .empty dice [stay, stay]
  obtain ⟨site, u, own, selected, decided, -⟩ := each ["ford"] "ford" [] arrivals
  have listed := selected.listed
  rw [own] at listed
  have needs : Event.takesNumber site.events = true := by
    rw [Script.takesNumber, listed] at takes
    exact takes
  have first : s.script.numbers ["ford"] = 1 := by
    rw [Script.numbers, List.countP_singleton, takes]
    rfl
  have both : s.script.numbers now.game.arrivals = 2 := by
    rw [arrivals, Script.numbers, List.countP_cons, List.countP_singleton, takes]
    rfl
  have whole : s.after (s.newWorld .empty dice) [stay, stay] = now := rfl
  rw [first] at decided
  rw [whole, both] at taken
  exact ⟨arrivals, taken, site, u, listed, selected.arrivals, decided needs⟩

end Gamebook
