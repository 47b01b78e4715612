import Gamebook.Proofs.Script.Reference

/-! What an option of the menu costs, where the fare goes by distance.

An exit without an action of its own is offered as the way to its target, and nothing more is kept of it.
The fare of the way is that of the first exit that leads there. So where several roads lead to one site,
each of them costs what the first one does.
-/

set_option autoImplicit false

namespace Gamebook

open Play

namespace CostPolicy

theorem eq_distance_of_ofConfig {travel : TravelConfig} {cost : CostPolicy}
    (policy : travel.policy = "distance") (made : ofConfig travel = .ok cost) :
    cost = distance travel.days travel.moneyPerDay := by
  have other : travel.policy ≠ "flat" := by
    rw [policy]
    decide
  unfold ofConfig at made
  rw [if_neg other, if_pos policy] at made
  exact (Except.ok.inj made).symm

theorem distance_of_exitTo? {departure arrival : Site} {road : Exit}
    (first : departure.exitTo? (.text arrival.id) = some road) (days moneyPerDay : Int) :
    distance days moneyPerDay departure arrival =
      ⟨road.distance * days, road.distance * days * moneyPerDay⟩ := by
  unfold distance
  rw [first]
  rfl

end CostPolicy

namespace Play

variable {s : Setting} {w : World}

/-- Exits that have just been shown are the menu of the site where the protagonist stands. -/
theorem menu_of_refresh {state : Bool} {v : World}
    (shown : outcome (refresh s state true) v = (.ok (), w)) :
    ∃ site, s.script.findSite? w.game.state.site = some site ∧
      menu s w.game.state site = .ok w.game.panel ∧ w.game.screen.options = w.game.panel := by
  unfold refresh at shown
  obtain ⟨_, u, -, shown⟩ := outcome_bind_eq_ok shown
  obtain ⟨site, choices, here, listed, rfl⟩ := offerExits_eq_ok shown
  exact ⟨site, here, listed, rfl⟩

theorem panel_of_refresh {state : Bool} {v : World}
    (shown : outcome (refresh s state true) v = (.ok (), w)) :
    ∃ site, s.script.findSite? w.game.state.site = some site ∧
      w.game.panel.map (·.action) = site.exits.map exitAction := by
  obtain ⟨site, here, listed, -⟩ := menu_of_refresh shown
  exact ⟨site, here, actions_of_menu s _ listed⟩

theorem outcome_choose_exit {site : Site} {index : Nat} {exit : Exit}
    (offered : w.game.panel.map (·.action) = site.exits.map exitAction)
    (placed : site.exits[index]? = some exit) (idle : exit.action = none) (depth : Nat) :
    outcome (choose (dispatch s (depth + 1)) index) w =
      outcome (goTo s (dispatch s depth) exit.target false) w := by
  have action : (w.game.panel.map (·.action))[index]? = some (exitAction exit) := by
    rw [offered, List.getElem?_map, placed]
    rfl
  rw [List.getElem?_map] at action
  obtain ⟨choice, there, does⟩ := Option.map_eq_some_iff.1 action
  rw [outcome_choose there, does, exitAction, idle]
  exact congrArg (outcome · w) (dispatch_travel depth exit.target)

theorem payLeg_of_found {id : String} {departure : Site}
    (here : s.script.findSite? id = some departure) (arrival : Site) :
    payLeg s id arrival = pay s (s.cost departure arrival) := by
  unfold payLeg
  rw [Script.site_text, here]
  rfl

theorem outcome_goTo_paid (perform : Action → Play Unit) {departure arrival : Site}
    (here : s.script.findSite? w.game.state.site = some departure)
    (there : s.script.findSite? arrival.id = some arrival)
    (forward : 0 ≤ (s.cost departure arrival).days) :
    let cost := s.cost departure arrival
    ∃ fare u, (∀ h ∈ fare, h.isPayment = true) ∧ w.game.Grows fare u.game ∧
      u.game.state = w.game.state.charge cost ∧
      outcome (goTo s perform (.text arrival.id) false) w =
        if (Value.int cost.money).isWritable then
          outcome (welcome s perform arrival (s.arrives w.game.state.site arrival))
            { u with game := u.game.moveTo arrival.id }
        else (.error (.fault .badNumeral), u) := by
  intro cost
  obtain ⟨fare, u, payments, grown, charged, paid⟩ := outcome_pay forward w
  have known : s.script.site (.text arrival.id) = .ok arrival := by
    rw [Script.site_text, there]
  refine ⟨fare, u, payments, grown, charged, ?_⟩
  rw [goTo_of_found known, outcome_passage, Bool.not_false, onlyIf_true, payLeg_of_found here, paid]
  by_cases writable : (Value.int cost.money).isWritable = true
  · rw [if_pos writable, if_pos writable]
  · rw [if_neg writable, if_neg writable]

/-- Where the fare goes by distance and the menu has just been shown, it has one option for each exit.
An option whose exit has no action of its own is refused if the exit leads to no site. Else the days
and the money of a fare are taken before anything of the arrival, and a fare whose money cannot be
written is the last thing that happens. It is the fare of the first exit that leads to the same site:
of the exit that was taken, if no other before it leads there. -/
theorem choose_charges_distance {source : Source} {config : Config}
    (ready : Setting.of source config none = .ok s) (policy : config.travel.policy = "distance")
    (days : 0 ≤ config.travel.days)
    (far : ∀ site ∈ s.script.sites, ∀ exit ∈ site.exits, 1 ≤ exit.distance) {state : Bool} {v : World}
    (shown : outcome (refresh s state true) v = (.ok (), w)) (depth : Nat) :
    ∃ site, s.script.findSite? w.game.state.site = some site ∧
      w.game.panel.length = site.exits.length ∧
      ∀ (index : Nat) exit, site.exits[index]? = some exit → exit.action = none →
        let chosen := choose (dispatch s (depth + 1)) index
        ((∀ place ∈ s.script.sites, exit.target ≠ .text place.id) →
          Refused chosen w (if exit.target.isKey then .unknownSite exit.target else .notKey)) ∧
        ∀ arrival, s.script.findSite? arrival.id = some arrival → exit.target = .text arrival.id →
          ∃ road ∈ site.exits, site.exitTo? (.text arrival.id) = some road ∧
            road.target = exit.target ∧
            ((∀ earlier < index, ∀ other, site.exits[earlier]? = some other →
              other.target ≠ exit.target) → road = exit) ∧
            let steps := road.distance * config.travel.days
            let cost : Cost := ⟨steps, steps * config.travel.moneyPerDay⟩
            ∃ fare u, (∀ h ∈ fare, h.isPayment = true) ∧ w.game.Grows fare u.game ∧
              u.game.state = w.game.state.charge cost ∧
              outcome chosen w =
                if (Value.int cost.money).isWritable then
                  outcome
                    (welcome s (dispatch s depth) arrival (s.arrives w.game.state.site arrival))
                    { u with game := u.game.moveTo arrival.id }
                else (.error (.fault .badNumeral), u) := by
  obtain ⟨site, here, offered⟩ := panel_of_refresh shown
  have sized : w.game.panel.length = site.exits.length := by
    simpa using congrArg List.length offered
  refine ⟨site, here, sized, fun index exit placed idle => ?_⟩
  intro chosen
  have run : outcome chosen w = _ := outcome_choose_exit offered placed idle depth
  refine ⟨fun absent => ?_, fun arrival there leads => ?_⟩
  · unfold Refused
    rw [run]
    exact Refused.goTo absent false
  · obtain ⟨road, first, among, own, earliest⟩ := Site.exists_exitTo? placed leads
    rw [leads] at run ⊢
    refine ⟨road, among, first, own, earliest, ?_⟩
    -- the setting has the configured policy, and that looks the road up again
    obtain ⟨-, -, -, -, given | ⟨-, made⟩⟩ := Setting.of_eq_ok ready
    · cases given
    have cost : s.cost site arrival = _ :=
      (congrFun (congrFun (CostPolicy.eq_distance_of_ofConfig policy made) site) arrival).trans
        (CostPolicy.distance_of_exitTo? first _ _)
    have forward : 0 ≤ (s.cost site arrival).days := by
      rw [cost]
      have positive := far site (Script.mem_of_findSite? here) road among
      exact Int.mul_nonneg (by omega) days
    have paid := outcome_goTo_paid (dispatch s depth) here there forward
    rw [cost, ← run] at paid
    exact paid

end Play

/-- Two roads from the ford to the mill, the second three times as long as the first. -/
def Script.twoRoads : Script where
  sites := [
    { id := "ford", name := "Ford"
      exits := [
        { target := "mill", name := "High road" },
        { target := "mill", name := "Low road", distance := 3 }] },
    { id := "mill", name := "Mill" }]
  events := []
  entry := { site := "ford" }

def Setting.twoRoads : Setting where
  script := .twoRoads
  config := { travel := { policy := "distance" } }
  cost := .distance 1 10

/-- The low road is paid for as the high road. -/
theorem Play.choose_charges_distance_twoRoads :
    let s := Setting.twoRoads
    let source := Source.of .twoRoads Routine.builtin
    let shown := outcome (refresh s true true) (s.newWorld .empty (.ofList []))
    let low := Script.twoRoads.sites[0].exits[1]
    let mill := Script.twoRoads.sites[1]
    Setting.of source s.config none = .ok s ∧ shown.1.isOk = true ∧ low.distance = 3 ∧
      ∃ (fare : List Happening) (u : World), (∀ h ∈ fare, h.isPayment = true) ∧
        shown.2.game.Grows fare u.game ∧ u.game.state = shown.2.game.state.charge ⟨1, 10⟩ ∧
        outcome (choose (dispatch s 1) 1) shown.2 =
          outcome (welcome s (dispatch s 0) mill true)
            { u with game := u.game.moveTo mill.id } := by
  intro s source shown low mill
  have ready : Setting.of source s.config none = .ok s := rfl
  have far : ∀ site ∈ s.script.sites, ∀ exit ∈ site.exits, 1 ≤ exit.distance := by decide +kernel
  have ended : shown.1.isOk = true := by decide +kernel
  obtain ⟨-, -, -, still⟩ := grows_refresh (s := s) true (s.newWorld .empty (.ofList []))
  have stands : shown.2.game.state.site = "ford" := congrArg State.site still
  refine ⟨ready, ended, rfl, ?_⟩
  rcases run : shown with ⟨answer, w⟩
  rw [run] at ended stands
  cases answer with
  | error stop => cases ended
  | ok _ =>
    obtain ⟨site, here, -, charges⟩ := choose_charges_distance ready rfl (by decide) far run 0
    rw [stands] at here
    cases (show s.script.findSite? "ford" = some Script.twoRoads.sites[0] from rfl).symm.trans here
    obtain ⟨-, paid⟩ := charges 1 low rfl rfl
    obtain ⟨road, -, first, -, -, fare, u, payments, grown, charged, went⟩ := paid mill rfl rfl
    cases (show Script.twoRoads.sites[0].exitTo? "mill" =
      some Script.twoRoads.sites[0].exits[0] from rfl).symm.trans first
    refine ⟨fare, u, payments, grown, charged, ?_⟩
    have writable : (Value.int 10).isWritable = true := by decide +kernel
    rw [stands] at went
    exact went.trans (if_pos writable)

end Gamebook
