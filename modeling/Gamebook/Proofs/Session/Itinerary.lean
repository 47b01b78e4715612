import Gamebook.Proofs.Play.Selection
import Gamebook.Proofs.Session.Fare
import Gamebook.Proofs.Session.Soundness

/-! What a journey of many legs comes to.

A leg is paid for by what it costs from the site before it, and its end is where the next one departs.
As long as no event fires on the way, nothing else happens to the state and to the log: so the books of
the whole journey are the sums of its legs.
-/

set_option autoImplicit false

namespace Gamebook

open Play

def TextConfig.fareLine (text : TextConfig) (money : Int) : Line where
  text := .text ((if text.travelReason = "" then "" else text.travelReason ++ ": ") ++
    text.labels.money ++ " " ++ (if 0 < money then "" else "+") ++ toString (-money))
  types := "value-mutation" :: if money < 0 then ["good"] else if 0 < money then ["bad"] else []

example : ({} : TextConfig).fareLine 10 = ⟨"travel: Money -10", ["value-mutation", "bad"]⟩ := rfl

def TextConfig.fareLines (text : TextConfig) (costs : List Cost) : List Line :=
  ((costs.map (·.money)).filter (· ≠ 0)).map text.fareLine

theorem TextConfig.line_fare (text : TextConfig) (money value : Int) :
    Mutation.line text.labels ⟨.money, -money, value, .text text.travelReason⟩ = text.fareLine money := by
  have given : (Value.text text.travelReason).isTruthy = true ↔ ¬text.travelReason = "" := by
    simp [Value.isTruthy]
  have takes : -money < 0 ↔ 0 < money := by omega
  have gives : 0 < -money ↔ money < 0 := by omega
  unfold Mutation.line Mutation.change fareLine
  simp only [given, takes, gives, ite_not, Value.display, Labels.get, String.append_assoc]

theorem TextConfig.fareLines_cons (text : TextConfig) (cost : Cost) (rest : List Cost) :
    text.fareLines (cost :: rest) = text.fareLines [cost] ++ text.fareLines rest := by
  unfold fareLines
  rw [← List.singleton_append, List.map_append, List.filter_append, List.map_append]

namespace Play

variable {s : Setting}

theorem log_pass {days : Int} {w u : World}
    (done : outcome (onlyIf (days != 0) (attempt (·.pass days))) w = (.ok (), u)) :
    u.game.screen.log = w.game.screen.log ∧ u.game.dice = w.game.dice := by
  cases given : days != 0 with
  | false =>
    rw [given] at done
    cases done
    exact ⟨rfl, rfl⟩
  | true =>
    rw [given, onlyIf_true, outcome_attempt] at done
    cases passed : w.game.pass days with
    | error fault =>
      rw [passed] at done
      cases done
    | ok g =>
      rw [passed] at done
      cases done
      obtain ⟨state, -, made⟩ := bind_eq_ok passed
      cases made
      exact ⟨rfl, rfl⟩

theorem log_spend {money : Int} {w u : World}
    (done : outcome (onlyIf (money != 0) (mutate s (.text Counter.money.name) (.int (-money))
      (.text s.config.text.travelReason))) w = (.ok (), u)) (cost : Cost) (own : cost.money = money) :
    u.game.screen.log = w.game.screen.log ++ s.config.text.fareLines [cost] ∧
      u.game.dice = w.game.dice := by
  subst own
  unfold TextConfig.fareLines
  cases given : cost.money != 0 with
  | false =>
    rw [given] at done
    cases done
    have none : cost.money = 0 := by simpa using given
    simp [none]
  | true =>
    have some : cost.money ≠ 0 := by simpa using given
    rw [given, onlyIf_true, outcome_mutate] at done
    have changed : w.game.mutate (.text Counter.money.name) (.int (-cost.money))
        (.text s.config.text.travelReason) = .ok (⟨.money, -cost.money, _, _⟩, _) := rfl
    rw [changed] at done
    dsimp only at done
    split at done
    · cases done
      simp [some, Game.write, Game.record, TextConfig.line_fare]
    · cases done

theorem log_pay {cost : Cost} {w u : World} (done : outcome (pay s cost) w = (.ok (), u)) :
    u.game.screen.log = w.game.screen.log ++ s.config.text.fareLines [cost] ∧
      u.game.dice = w.game.dice := by
  obtain ⟨_, v, passed, spent⟩ := outcome_bind_eq_ok done
  obtain ⟨told, left⟩ := log_spend spent cost rfl
  rw [told, left, (log_pass passed).1, (log_pass passed).2]
  exact ⟨rfl, rfl⟩

end Play

/-- What a journey may change: the state, the log and the dice. -/
def Game.books (g : Game) : State × List Line × Dice := (g.state, g.screen.log, g.dice)

/-- What an arrival needs to end well, where it fires no event: that the draw can be made, and the menu
of the site be shown. -/
def Setting.Receives (s : Setting) (dice : Dice) (departure : String) (site : Site) (state : State) :
    Prop :=
  (s.arrives departure site = true → ∃ drawn, Event.select site.events dice = .ok drawn) ∧
    ∃ choices, Play.menu s state site = .ok choices

def Setting.Quiet (s : Setting) (dice : Dice) (departure : String) (site : Site) : Prop :=
  s.arrives departure site = true →
    ∀ event dice', Event.select site.events dice ≠ .ok (some event, dice')

namespace Play

variable {s : Setting} {w : World} {site : Site}

theorem books_refresh (here : s.script.findSite? w.game.state.site = some site) :
    let shown := outcome (refresh s true true) w
    shown.2.game.books = w.game.books ∧
      (shown.1.isOk = true ↔ ∃ choices, menu s w.game.state site = .ok choices) := by
  have seen : s.script.findSite? w.game.showState.state.site = some site := here
  have same : w.game.showState.state = w.game.state := rfl
  rw [outcome_refresh, onlyIf_true, outcome_offerExits, seen]
  dsimp only
  rw [same]
  cases menu s w.game.state site with
  | error fault => exact ⟨rfl, by simp [Except.isOk, Except.toBool]⟩
  | ok choices => exact ⟨rfl, by simp [Except.isOk, Except.toBool]⟩

theorem books_welcome (perform : Action → Play Unit)
    (here : s.script.findSite? w.game.state.site = some site) {departure : String}
    (quiet : s.Quiet w.game.dice departure site) :
    let met := outcome (welcome s perform site (s.arrives departure site)) w
    met.2.game.books = w.game.books ∧
      (met.1.isOk = true ↔ s.Receives w.game.dice departure site w.game.state) := by
  unfold Setting.Receives
  cases arrives : s.arrives departure site with
  | false =>
    obtain ⟨kept, fine⟩ := books_refresh here
    rw [outcome_welcome_quiet]
    exact ⟨kept, fine.trans (by simp)⟩
  | true =>
    rw [outcome_welcome]
    cases selected : Event.select site.events w.game.dice with
    | error fault => exact ⟨rfl, by simp [Except.isOk, Except.toBool]⟩
    | ok drawn =>
      obtain ⟨event?, dice⟩ := drawn
      cases event? with
      | some event => exact absurd selected (quiet arrives event dice)
      | none =>
        cases Event.dice_of_select_none selected
        have there : s.script.findSite? (w.selected site w.game.dice).game.state.site = some site := here
        obtain ⟨kept, fine⟩ := books_refresh there
        have still : outcome (fire s perform none) (w.selected site w.game.dice) =
          (.ok (), w.selected site w.game.dice) := rfl
        have same : ((w.selected site w.game.dice).game.revision == w.game.revision) = true :=
          beq_self_eq_true _
        dsimp only
        rw [still]
        dsimp only
        rw [same]
        have stands : (w.selected site w.game.dice).game.state = w.game.state := rfl
        rw [stands] at fine
        exact ⟨kept, fine.trans (by simp)⟩

end Play

def State.travelled (state : State) (site : String) (cost : Cost) : State where
  site := site
  days := state.days + cost.days
  status := { state.status with money := state.status.money - cost.money }

namespace State

theorem travelled_charge (state : State) (site : String) (cost : Cost) :
    { state.charge cost with site } = state.travelled site cost := rfl

theorem travelled_free (state : State) (site : String) :
    state.travelled site ⟨0, 0⟩ = { state with site } := by
  simp [travelled]

theorem travelled_travelled (state : State) (first second : String) (one other : Cost) :
    (state.travelled first one).travelled second other =
      state.travelled second ⟨one.days + other.days, one.money + other.money⟩ := by
  simp only [travelled, Int.add_assoc, Int.sub_sub]

end State

def Setting.fare (s : Setting) (instantly : Bool) (departure arrival : Site) : Cost :=
  if instantly then ⟨0, 0⟩ else s.cost departure arrival

/-- Two stops of a journey that follow each other. -/
def legs (home : Site) (stops : List Site) : List (Site × Site) :=
  (home :: stops).zip stops

def Setting.itinerary (stops : List Site) (instantly : Bool) (depth : Nat) : List Operation :=
  stops.map fun site => { command := .goTo (.text site.id) instantly, depth }

namespace Play

variable {s : Setting} {w : World} {home site : Site}

theorem outcome_fare (here : s.script.findSite? w.game.state.site = some home)
    (forward : 0 ≤ (s.cost home site).days) {instantly : Bool}
    (writable : (Value.int (s.fare instantly home site).money).isWritable = true) :
    let fare := s.fare instantly home site
    ∃ u, outcome (onlyIf (!instantly) (payLeg s w.game.state.site site)) w = (.ok (), u) ∧
      (u.game.moveTo site.id).books = (w.game.state.travelled site.id fare,
        w.game.screen.log ++ s.config.text.fareLines [fare], w.game.dice) := by
  cases instantly with
  | true =>
    have free : s.fare true home site = ⟨0, 0⟩ := rfl
    have silent : s.config.text.fareLines [⟨0, 0⟩] = [] := by simp [TextConfig.fareLines]
    refine ⟨w, rfl, ?_⟩
    rw [free, State.travelled_free, silent, List.append_nil]
    rfl
  | false =>
    change (Value.int (s.cost home site).money).isWritable = true at writable
    obtain ⟨_, u, -, -, charged, paid⟩ := outcome_pay (s := s) forward w
    rw [if_pos writable] at paid
    obtain ⟨told, left⟩ := log_pay paid
    have own : s.fare false home site = s.cost home site := rfl
    refine ⟨u, ?_, ?_⟩
    · rw [Bool.not_false, onlyIf_true, payLeg_of_found here, paid]
    · rw [own, ← told, ← left, ← State.travelled_charge, ← charged]
      rfl

/-- A leg on which no event fires: the books after it, and when it ends well. -/
theorem books_leg (perform : Action → Play Unit) (here : s.script.findSite? w.game.state.site = some home)
    (listed : s.script.findSite? site.id = some site) (forward : 0 ≤ (s.cost home site).days)
    {instantly : Bool} (writable : (Value.int (s.fare instantly home site).money).isWritable = true)
    (quiet : s.Quiet w.game.dice w.game.state.site site) :
    let fare := s.fare instantly home site
    let went := outcome (goTo s perform (.text site.id) instantly) w
    went.2.game.books = (w.game.state.travelled site.id fare,
        w.game.screen.log ++ s.config.text.fareLines [fare], w.game.dice) ∧
      (went.1.isOk = true ↔ s.Receives w.game.dice w.game.state.site site went.2.game.state) := by
  intro fare went
  obtain ⟨u, paid, books⟩ := outcome_fare here forward writable
  have known : s.script.site (.text site.id) = .ok site := by
    rw [Script.site_text, listed]
  have run : went = outcome (welcome s perform site (s.arrives w.game.state.site site))
      { u with game := u.game.moveTo site.id } := by
    change outcome (goTo s perform (.text site.id) instantly) w = _
    rw [goTo_of_found known, outcome_passage, paid]
  have left : (u.game.moveTo site.id).dice = w.game.dice := congrArg (·.2.2) books
  rw [← left] at quiet ⊢
  obtain ⟨kept, fine⟩ := books_welcome perform
    (w := { u with game := u.game.moveTo site.id }) listed quiet
  rw [← run] at kept fine
  have stands : went.2.game.state = (u.game.moveTo site.id).state := congrArg Prod.fst kept
  refine ⟨?_, ?_⟩
  · rw [kept, left]
    exact books
  · rw [fine, stands]

end Play

def Cost.total : List Cost → Cost
  | [] => ⟨0, 0⟩
  | cost :: rest => ⟨cost.days + (total rest).days, cost.money + (total rest).money⟩

theorem Cost.total_free {α : Type} (ways : List α) : total (ways.map fun _ => ⟨0, 0⟩) = ⟨0, 0⟩ := by
  induction ways with
  | nil => rfl
  | cons way rest ih => rw [List.map_cons, total, ih, Int.add_zero]

namespace Setting

variable {s : Setting} {w : World} {home : Site} {stops : List Site} {instantly : Bool}

/-- What is asked of a leg: that its end is listed, that its fare takes no negative days and can be
written, and that no event fires for who comes that way. -/
structure Passable (s : Setting) (dice : Dice) (instantly : Bool) (leg : Site × Site) : Prop where
  listed : s.script.findSite? leg.2.id = some leg.2
  forward : 0 ≤ (s.cost leg.1 leg.2).days
  writable : (Value.int (s.fare instantly leg.1 leg.2).money).isWritable = true
  quiet : s.Quiet dice leg.1.id leg.2

def fares (s : Setting) (instantly : Bool) (home : Site) (stops : List Site) : List Cost :=
  (legs home stops).map fun leg => s.fare instantly leg.1 leg.2

theorem books_operation {site : Site} (here : s.script.findSite? w.game.state.site = some home)
    (passable : s.Passable w.game.dice instantly (home, site)) (depth : Nat) :
    let fare := s.fare instantly home site
    let went := Operation.outcome s { command := .goTo (.text site.id) instantly, depth } w
    went.2.game.books = (w.game.state.travelled site.id fare,
        w.game.screen.log ++ s.config.text.fareLines [fare], w.game.dice) ∧
      (went.1.isOk = true ↔ s.Receives w.game.dice home.id site went.2.game.state) := by
  intro fare went
  have own : w.game.state.site = home.id := (Script.id_of_findSite? here).symm
  have quiet : s.Quiet w.game.dice w.game.state.site site := by
    rw [own]
    exact passable.quiet
  obtain ⟨books, fine⟩ := books_leg (dispatch s depth) here passable.listed
    passable.forward passable.writable quiet
  rw [own] at fine
  have run : went = _ := outcome_bind (goTo s (dispatch s depth) (.text site.id) instantly)
    (fun _ => pure Reply.nothing) w
  rcases leg : outcome (goTo s (dispatch s depth) (.text site.id) instantly) w with ⟨answer, u⟩
  rw [leg] at run books fine
  cases answer with
  | error stop => rw [run]; exact ⟨books, fine⟩
  | ok _ => rw [run]; exact ⟨books, fine⟩

theorem exists_first_leg {site : Site} {rest : List Site}
    (here : s.script.findSite? w.game.state.site = some home)
    (passable : ∀ leg ∈ legs home (site :: rest), s.Passable w.game.dice instantly leg) (depth : Nat) :
    let fare := s.fare instantly home site
    ∃ well u, (∀ stops, s.after w (itinerary (site :: stops) instantly depth) =
        s.after u (itinerary stops instantly depth)) ∧
      s.goesWell w (itinerary (site :: rest) instantly depth) =
        (well && s.goesWell u (itinerary rest instantly depth)) ∧
      u.game.books = (w.game.state.travelled site.id fare,
        w.game.screen.log ++ s.config.text.fareLines [fare], w.game.dice) ∧
      (well = true ↔ s.Receives w.game.dice home.id site u.game.state) ∧
      s.script.findSite? u.game.state.site = some site ∧
      ∀ leg ∈ legs site rest, s.Passable u.game.dice instantly leg := by
  intro fare
  have first : s.Passable w.game.dice instantly (home, site) := passable _ List.mem_cons_self
  obtain ⟨books, fine⟩ := books_operation here first depth
  refine ⟨_, _, fun stops => rfl, rfl, books, fine, ?_, fun leg member => ?_⟩
  · rw [(Prod.mk.inj books).1]
    exact first.listed
  · rw [show (Operation.outcome _ _ _).2.game.dice = w.game.dice from congrArg (·.2.2) books]
    exact passable leg (List.mem_cons_of_mem _ member)

theorem books_itinerary (here : s.script.findSite? w.game.state.site = some home)
    (passable : ∀ leg ∈ legs home stops, s.Passable w.game.dice instantly leg) (depth : Nat) :
    let fares := s.fares instantly home stops
    (s.after w (itinerary stops instantly depth)).game.books =
      (w.game.state.travelled (stops.getLastD home).id (.total fares),
        w.game.screen.log ++ s.config.text.fareLines fares, w.game.dice) := by
  induction stops generalizing w home with
  | nil =>
    have own : home.id = w.game.state.site := Script.id_of_findSite? here
    change w.game.books = (w.game.state.travelled home.id ⟨0, 0⟩, w.game.screen.log ++ [], _)
    rw [own, State.travelled_free, List.append_nil]
    rfl
  | cons site rest ih =>
    obtain ⟨_, u, step, -, books, -, there, onward⟩ := exists_first_leg here passable depth
    obtain ⟨stands, told⟩ := Prod.mk.inj books
    obtain ⟨told, left⟩ := Prod.mk.inj told
    dsimp only
    rw [step, ih there onward, stands, told, left, State.travelled_travelled,
      List.append_assoc, ← TextConfig.fareLines_cons, List.getLastD_cons]
    rfl

theorem goesWell_itinerary (here : s.script.findSite? w.game.state.site = some home)
    (passable : ∀ leg ∈ legs home stops, s.Passable w.game.dice instantly leg) (depth : Nat) :
    s.goesWell w (itinerary stops instantly depth) = true ↔
      ∀ before site after, stops = before ++ site :: after →
        s.Receives w.game.dice (before.getLastD home).id site
          (s.after w (itinerary (before ++ [site]) instantly depth)).game.state := by
  induction stops generalizing w home with
  | nil => simp [itinerary, goesWell]
  | cons site rest ih =>
    obtain ⟨well, u, step, whole, books, fine, there, onward⟩ := exists_first_leg here passable depth
    have left : u.game.dice = w.game.dice := congrArg (·.2.2) books
    rw [whole, Bool.and_eq_true_iff, fine, ih there onward, left]
    constructor
    · rintro ⟨first, others⟩ before stop after split
      cases before with
      | nil =>
        obtain ⟨rfl, rfl⟩ := List.cons.inj split
        rw [List.nil_append, step]
        exact first
      | cons head before =>
        obtain ⟨rfl, rest⟩ := List.cons.inj split
        rw [List.cons_append, step, List.getLastD_cons]
        exact others before stop after rest
    · intro each
      refine ⟨?_, fun before stop after split => ?_⟩
      · have first := each [] site rest rfl
        rw [List.nil_append, step] at first
        exact first
      · have other := each (site :: before) stop after (congrArg (site :: ·) split)
        rw [List.cons_append, step, List.getLastD_cons] at other
        exact other

theorem fares_instantly (home : Site) (stops : List Site) :
    Cost.total (s.fares true home stops) = ⟨0, 0⟩ ∧
      s.config.text.fareLines (s.fares true home stops) = [] := by
  have free : s.fares true home stops = (legs home stops).map fun _ => ⟨0, 0⟩ := rfl
  rw [free, Cost.total_free]
  simp [TextConfig.fareLines]

theorem forward_of {source : Source} {config : Config} {cost : Option CostPolicy}
    (ready : Setting.of source config cost = .ok s)
    (given : ∀ policy, cost = some policy → ∀ departure arrival, 0 ≤ (policy departure arrival).days)
    (days : cost = none → 0 ≤ config.travel.days)
    (far : ∀ site ∈ s.script.sites, ∀ exit ∈ site.exits, 1 ≤ exit.distance) {departure : Site}
    (listed : departure ∈ s.script.sites) (arrival : Site) : 0 ≤ (s.cost departure arrival).days := by
  obtain ⟨-, -, -, -, injected | ⟨configured, named⟩⟩ := of_eq_ok ready
  · exact given s.cost injected departure arrival
  · exact CostPolicy.forward_of_ofConfig named (days configured) (far departure listed) arrival

/-- A journey from stop to stop on which no event fires, under a policy that takes no negative days: where
each fare can be written, the days and the money of its legs are added up, each leg costing what it costs
from the stop before it; health and honor stay, and the log has one more line for each fare that is not
zero, in order. Who goes instantly only comes to be at the last stop, and nothing is told. This is so
however the legs end, and a leg ends well just where the site that it leads to receives who comes there. -/
theorem journey_accounts {source : Source} {config : Config} {cost : Option CostPolicy}
    (ready : Setting.of source config cost = .ok s)
    (given : ∀ policy, cost = some policy → ∀ departure arrival, 0 ≤ (policy departure arrival).days)
    (days : cost = none → 0 ≤ config.travel.days)
    (far : ∀ site ∈ s.script.sites, ∀ exit ∈ site.exits, 1 ≤ exit.distance)
    (here : s.script.findSite? w.game.state.site = some home)
    (listed : ∀ stop ∈ stops, s.script.findSite? stop.id = some stop)
    (quiet : ∀ leg ∈ legs home stops, s.Quiet w.game.dice leg.1.id leg.2) (depth : Nat) :
    let costs := (legs home stops).map fun leg => s.cost leg.1 leg.2
    let writable := ∀ cost ∈ costs, (Value.int cost.money).isWritable = true
    let paid := (s.after w (itinerary stops false depth)).game
    let free := (s.after w (itinerary stops true depth)).game
    let last := (stops.getLastD home).id
    (writable →
      paid.state =
        { site := last
          days := w.game.state.days + (Cost.total costs).days
          status :=
            { hp := w.game.state.status.hp
              money := w.game.state.status.money - (Cost.total costs).money
              honor := w.game.state.status.honor } } ∧
      paid.screen.log = w.game.screen.log ++
        ((costs.map (·.money)).filter (· ≠ 0)).map s.config.text.fareLine) ∧
    free.state = { w.game.state with site := last } ∧
    free.screen.log = w.game.screen.log ∧
    ∀ instantly, (instantly = true ∨ writable) →
      (s.goesWell w (itinerary stops instantly depth) = true ↔
        ∀ before site after, stops = before ++ site :: after →
          s.Receives w.game.dice (before.getLastD home).id site
            (s.after w (itinerary (before ++ [site]) instantly depth)).game.state) := by
  intro costs writable paid free last
  have passable (instantly : Bool) (writes : instantly = true ∨ writable) :
      ∀ leg ∈ legs home stops, s.Passable w.game.dice instantly leg := by
    intro leg member
    obtain ⟨departs, arrives⟩ := List.of_mem_zip member
    have among : leg.1 ∈ s.script.sites := by
      rcases List.mem_cons.1 departs with home | stop
      · rw [home]
        exact Script.mem_of_findSite? here
      · exact Script.mem_of_findSite? (listed _ stop)
    refine ⟨listed _ arrives, forward_of ready given days far among leg.2, ?_, quiet leg member⟩
    cases instantly with
    | true => exact Value.isWritable_of_not_isTruthy rfl
    | false =>
      have writes : writable := writes.resolve_left Bool.false_ne_true
      exact writes _ (List.mem_map_of_mem member)
  refine ⟨fun writes => ?_, ?_, ?_,
    fun instantly writes => goesWell_itinerary here (passable instantly writes) depth⟩
  · have books := books_itinerary here (passable false (.inr writes)) depth
    exact ⟨congrArg Prod.fst books, congrArg (·.2.1) books⟩
  · have books := books_itinerary here (passable true (.inl rfl)) depth
    have state := congrArg Prod.fst books
    dsimp only at state
    rw [(fares_instantly home stops).1, State.travelled_free] at state
    exact state
  · have books := books_itinerary here (passable true (.inl rfl)) depth
    have log := congrArg (·.2.1) books
    dsimp only at log
    rw [(fares_instantly home stops).2, List.append_nil] at log
    exact log

theorem journey_accounts_twoTowns :
    let s := twoTowns
    let ford := Script.twoTowns.sites[0]
    let mill := Script.twoTowns.sites[1]
    let stops := [mill, mill, ford]
    let fare := s.config.text.fareLine 10
    let gone := (s.after .twoTowns (itinerary stops false 0)).game
    Setting.of (.of s.script Routine.builtin) s.config none = .ok s ∧
      (∀ leg ∈ legs ford stops, s.Quiet World.twoTowns.game.dice leg.1.id leg.2) ∧
      gone.state = { site := "ford", days := 3, status := { hp := 100, money := 70, honor := 0 } } ∧
      gone.screen.log = [fare, fare, fare] ∧
      (s.after .twoTowns (itinerary stops true 0)).game.state = World.twoTowns.game.state := by
  intro s ford mill stops fare gone
  have ready : Setting.of (.of s.script Routine.builtin) s.config none = .ok s := rfl
  have far : ∀ site ∈ s.script.sites, ∀ exit ∈ site.exits, 1 ≤ exit.distance := by decide +kernel
  have listed : ∀ stop ∈ stops, s.script.findSite? stop.id = some stop := by
    simp only [stops, List.forall_mem_cons]
    exact ⟨rfl, rfl, rfl, by simp⟩
  have eventless : ∀ stop ∈ stops, stop.events = [] := by
    simp only [stops, List.forall_mem_cons]
    exact ⟨rfl, rfl, rfl, by simp⟩
  have quiet : ∀ leg ∈ legs ford stops, s.Quiet World.twoTowns.game.dice leg.1.id leg.2 := by
    intro leg member _ event dice' selected
    rw [eventless leg.2 (List.of_mem_zip member).2] at selected
    cases selected
  obtain ⟨paid, free, -⟩ := journey_accounts ready (by simp) (fun _ => by decide) far
    (show s.script.findSite? World.twoTowns.game.state.site = some ford from rfl) listed quiet 0
  have writes : (Value.int 10).isWritable = true := by decide +kernel
  obtain ⟨state, log⟩ := paid fun cost member => by
    obtain ⟨leg, -, rfl⟩ := List.mem_map.1 member
    exact writes
  have whole : (s.after .twoTowns (itinerary stops false 0)).game = gone := rfl
  have moneys : (((legs ford stops).map fun leg => s.cost leg.1 leg.2).map (·.money)).filter (· ≠ 0) =
      [10, 10, 10] := by decide +kernel
  rw [whole] at state log
  rw [moneys] at log
  exact ⟨ready, quiet, state, log, free⟩

/-- So much is taken for each step that it cannot be told. -/
def dear : Setting where
  script := .twoTowns
  config :=
    { status := { hp := 100, money := Text.numeralBound - 1, honor := 0 }
      travel := { policy := "distance", days := 10, moneyPerDay := Text.numeralBound / 10 } }
  cost := .distance 10 (Text.numeralBound / 10)

/-- A fare that cannot be written is taken, and the journey ends where it began, with no line told. -/
theorem unwritable_fare :
    let s := dear
    let mill := Script.twoTowns.sites[1]
    let gone := (s.after (s.newWorld .empty (.ofList [])) (itinerary [mill] false 0)).game
    Setting.of (.of s.script Routine.builtin) s.config none = .ok s ∧ 0 ≤ s.config.travel.days ∧
      s.script.findSite? mill.id = some mill ∧ mill.events = [] ∧
      (s.cost Script.twoTowns.sites[0] mill).money ≠ 0 ∧
      gone.state = { site := "ford", days := 10, status := { hp := 100, money := -1, honor := 0 } } ∧
      gone.screen.log.length = 0 := by
  intro s mill gone
  refine ⟨rfl, by decide, rfl, rfl, ?_, ?_, ?_⟩ <;> decide +kernel

end Setting

end Gamebook
