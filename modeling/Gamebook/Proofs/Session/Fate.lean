import Gamebook.Game.Routines
import Gamebook.Proofs.Play.Registration
import Gamebook.Proofs.Play.Sequence
import Gamebook.Proofs.Session.Draws
import Gamebook.Proofs.Session.Exits

/-! How a journey ends.

The routine that looks at the fate of a journey replaces the panel, whatever it finds, and so the refresh
after an arrival leaves the panel alone. An empty panel offers nothing, and nothing that can be chosen
makes another one.
-/

set_option autoImplicit false

namespace Gamebook

open Play

namespace Template

variable {script : Script} {config : TextConfig} {state : State}

theorem text_of_fill {raw : String} {text : Value}
    (filled : fill script config state (.text raw) = .ok text)
    (before : String) (slot : Slot) (after : String)
    (split : raw = before ++ (slot.token ++ after)) (other : slot ≠ .exits)
    (plain : '$' ∉ before.toList) (clear : '$' ∉ after.toList)
    (ends : Slot.wordEnds after.toList = true) :
    text = .text (before ++ slot.words script config state [] ++ after) := by
  have cut : Slot.wordEnds (slot.token ++ after).toList = true := by
    rw [String.toList_append]
    exact wordEnds_token slot after.toList
  rw [split, fill_eq_fillText, fillText_append before cut, fillText_token slot ends,
    slotText_of_ne_exits script config state other [], fillText_plain fun slot occurs => plain occurs.dollar_mem,
    fillText_plain fun slot occurs => clear occurs.dollar_mem] at filled
  unfold Slot.written at filled
  split at filled
  · cases filled
    rw [String.append_assoc]
  · cases filled

end Template

def Script.lastCause (script : Script) (state : State) : String :=
  if state.status.hp ≤ 0 then "You collapse on the road after " ++ toString state.days ++ " days."
  else
    "Debts catch up with you in " ++
      ((script.findSite? state.site).map (·.name)).getD state.site ++ "."

def State.lastWords (state : State) : String :=
  "Your journey ends. Honor: " ++ toString state.status.honor ++ "."

def Game.farewell (script : Script) (g : Game) : Game :=
  ((g.say (.text (script.lastCause g.state)) [LineType.bad.name]).say (.text g.state.lastWords)
    [LineType.normal.name]).offer .given []

def State.isLost (state : State) : Bool :=
  state.status.hp ≤ 0 || state.status.money < 0

namespace Play

variable {s : Setting} {perform : Action → Play Unit} {u v w : World}

theorem farewell_of_follow {raw : String} {v : World}
    (told : ∀ text, Template.fill s.script s.config.text u.game.state (.text raw) = .ok text →
      text = .text (s.script.lastCause u.game.state))
    (done : outcome (follow s perform
        (.act (.narrate raw [LineType.bad.name]) fun _ => Routine.endJourney)) u = (.ok (), v)) :
    v = { u with game := u.game.farewell s.script } := by
  obtain ⟨_, x, said, done⟩ := follow_act_eq_ok done
  obtain ⟨_, said⟩ := reply_eq_ok said
  obtain ⟨text, filled, rfl⟩ := narrate_eq_ok said
  obtain ⟨_, y, said, done⟩ := follow_act_eq_ok done
  obtain ⟨_, said⟩ := reply_eq_ok said
  obtain ⟨closing, last, rfl⟩ := narrate_eq_ok said
  obtain ⟨_, z, offered, done⟩ := follow_act_eq_ok done
  obtain ⟨_, offered⟩ := reply_eq_ok offered
  cases offered
  cases done
  have words : closing = .text u.game.state.lastWords :=
    Template.text_of_fill last "Your journey ends. Honor: " (.counter .honor) "." rfl nofun
      (by decide +kernel) (by decide +kernel) (by decide +kernel)
  rw [told text filled, words]
  rfl

theorem fate_of_follow {v : World}
    (done : outcome (follow s perform Routine.checkFate) u = (.ok (), v)) :
    if u.game.state.isLost then v = { u with game := u.game.farewell s.script }
    else outcome (refresh s true true) u = (.ok (), v) := by
  unfold Routine.checkFate follow at done
  rw [outcome_game_bind] at done
  dsimp only at done
  unfold State.isLost
  by_cases dead : u.game.state.status.hp ≤ 0
  · rw [if_pos dead] at done
    rw [decide_eq_true dead, Bool.true_or, if_pos rfl]
    refine farewell_of_follow (fun text filled => ?_) done
    rw [Script.lastCause, if_pos dead]
    exact Template.text_of_fill filled "You collapse on the road after " .days " days." rfl nofun
      (by decide +kernel) (by decide +kernel) (by decide +kernel)
  · rw [if_neg dead] at done
    rw [decide_eq_false dead, Bool.false_or]
    by_cases broke : u.game.state.status.money < 0
    · rw [if_pos broke] at done
      rw [decide_eq_true broke, if_pos rfl]
      refine farewell_of_follow (fun text filled => ?_) done
      rw [Script.lastCause, if_neg dead]
      exact Template.text_of_fill filled "Debts catch up with you in " .site "." rfl nofun
        (by decide +kernel) (by decide +kernel) (by decide +kernel)
    · rw [if_neg broke] at done
      rw [decide_eq_false broke, if_neg Bool.false_ne_true]
      obtain ⟨_, x, shown, done⟩ := follow_act_eq_ok done
      cases done
      obtain ⟨_, shown⟩ := reply_eq_ok shown
      exact shown

structure Over (s : Setting) (u v : World) : Prop where
  lines : v.game.screen.log = u.game.screen.log ++
    [.of (.text (s.script.lastCause u.game.state)) [LineType.bad.name],
      .of (.text u.game.state.lastWords) [LineType.normal.name]]
  panel : v.game.panel = []
  options : v.game.screen.options = []

structure Continues (s : Setting) (v : World) : Prop where
  menu : ∃ site, s.script.findSite? v.game.state.site = some site ∧
    menu s v.game.state site = .ok v.game.panel
  options : v.game.screen.options = v.game.panel
  state : v.game.screen.state = some v.game.state

/-- What becomes of a journey at whose fate is looked in `u`. -/
def Fated (s : Setting) (u v : World) : Prop :=
  v.game.state = u.game.state ∧ if u.game.state.isLost then Over s u v else Continues s v

theorem Fated.showState (fated : Fated s u v) : Fated s u { v with game := v.game.showState } := by
  obtain ⟨same, fate⟩ := fated
  refine ⟨same, ?_⟩
  split at fate
  · rename_i lost
    rw [if_pos lost]
    exact ⟨fate.lines, fate.panel, fate.options⟩
  · rename_i alive
    rw [if_neg alive]
    exact ⟨fate.menu, fate.options, rfl⟩

theorem fated_of_follow (done : outcome (follow s perform Routine.checkFate) u = (.ok (), v)) :
    Fated s u v ∧ v.game.revision = u.game.revision + 1 := by
  have fate := fate_of_follow done
  unfold Fated
  split at fate
  · rename_i lost
    cases fate
    rw [if_pos lost]
    exact ⟨⟨rfl, List.append_assoc _ _ _, rfl, rfl⟩, rfl⟩
  · rename_i alive
    rw [outcome_refresh] at fate
    obtain ⟨site, choices, here, listed, rfl⟩ := offerExits_eq_ok fate
    rw [if_neg alive]
    exact ⟨⟨rfl, ⟨site, here, listed⟩, rfl, rfl⟩, rfl⟩

/-- Nothing has been registered in place of the routine that looks at the fate of a journey. -/
def KeepsFate (registry : Registry Routine) : Prop :=
  ∀ routine, ("check_fate", routine) ∈ registry.writes → routine = Routine.checkFate

theorem keepsFate_builtin : KeepsFate Routine.builtin := by
  intro routine among
  simpa [Routine.builtin, Registry.ofList, Registry.register, Registry.empty] using among

theorem get?_check_fate {registry later : Registry Routine}
    (given : Routine.builtin.writes <:+ registry.writes) (kept : registry.writes <:+ later.writes)
    (own : KeepsFate later) : registry.get? "check_fate" = some Routine.checkFate := by
  have among : ("check_fate", Routine.checkFate) ∈ registry.writes := by
    apply given.mem
    simp [Routine.builtin, Registry.ofList, Registry.register]
  cases found : registry.get? "check_fate" with
  | none => exact absurd (List.lookup_eq_none_iff.1 found _ among) (by simp)
  | some routine =>
    obtain ⟨before, after, split, -⟩ := List.lookup_eq_some_iff.1 found
    rw [own routine (kept.mem (by rw [split]; simp))]

theorem fated_of_named {depth : Nat} (knows : s.knowsRegistry = true)
    (known : u.registry.get? "check_fate" = some Routine.checkFate)
    (done : outcome (dispatch s depth (.named "check_fate")) u = (.ok (), v)) :
    Fated s u v ∧ v.game.revision = u.game.revision + 1 := by
  cases depth with
  | zero => cases done
  | succ depth =>
    obtain ⟨routine, x, looked, done⟩ := outcome_bind_eq_ok done
    rw [outcome_known, if_pos knows, known] at looked
    cases looked
    exact fated_of_follow done

theorem exists_of_scripted {depth : Nat} {effects : List Effect} {name : String}
    (done : outcome (dispatch s depth (.scripted (effects ++ [.call name]))) w = (.ok (), v)) :
    ∃ levels u, outcome (applyEffects s (dispatch s levels) effects) w = (.ok (), u) ∧
      outcome (dispatch s levels (.named name)) u = (.ok (), v) := by
  cases depth with
  | zero => cases done
  | succ depth =>
    change outcome (applyEffects s (dispatch s depth) (effects ++ [.call name])) w = _ at done
    rw [applyEffects_append] at done
    obtain ⟨_, u, ran, called⟩ := outcome_bind_eq_ok done
    rw [applyEffects_one] at called
    exact ⟨depth, u, ran, called⟩

theorem choices_of_no_panel (none : w.game.panel = []) {choices : List Operation}
    (chosen : ∀ o ∈ choices, ∃ index, o.command = .choose index) :
    s.after w choices = w ∧
      ∀ index depth, Refused (within s depth (.choose index)) w (.noSuchOption index 0) := by
  have refused (index : Int) (depth : Nat) :
      Refused (within s depth (.choose index)) w (.noSuchOption index 0) := by
    have outside : ¬(0 ≤ index ∧ index < w.game.panel.length) := by
      rw [none, List.length_nil]
      omega
    have stopped : Refused (choose (dispatch s depth) index) w _ := Refused.choose outside
    rw [none, List.length_nil] at stopped
    exact stopped.bind _
  refine ⟨?_, refused⟩
  induction choices with
  | nil => rfl
  | cons o rest ih =>
    obtain ⟨index, asked⟩ := chosen o List.mem_cons_self
    have still : (o.outcome s w).2 = w := by
      unfold Operation.outcome
      rw [asked, refused index o.depth]
    rw [Setting.after, still]
    exact ih fun o member => chosen o (List.mem_cons_of_mem _ member)

/-- The world in which the event of a site is triggered for who has taken the way there. -/
def reached (s : Setting) (w : World) (site : Site) (dice : Dice) : World :=
  let paid := (outcome (payLeg s w.game.state.site site) w).2
  { paid with game := paid.game.moveTo site.id : World }.selected site dice

/-- What is chosen does effects, from some world on, and then looks at the fate of the journey: as a list
of effects, or as the way to a site where an event with such a list awaits. -/
inductive EndsInFate (s : Setting) (w : World) : Action → List Effect → World → Prop where
  | scripted (effects : List Effect) :
      EndsInFate s w (.scripted (effects ++ [.call "check_fate"])) effects w
  | arrival {exit : Exit} {site : Site} {event : Event} {dice : Dice} {effects : List Effect}
      (idle : exit.action = none) (found : s.script.site exit.target = .ok site)
      (arrives : s.arrives w.game.state.site site = true)
      (fired : Event.select site.events w.game.dice = .ok (some event, dice))
      (imperative : event.isNarrative = false)
      (acts : event.action = some (.scripted (effects ++ [.call "check_fate"]))) :
      EndsInFate s w (exitAction exit) effects (reached s w site dice)

theorem fated_of_scripted {depth : Nat} {effects : List Effect} (knows : s.knowsRegistry = true)
    (given : Routine.builtin.writes <:+ w.registry.writes) (own : KeepsFate v.registry)
    (done : outcome (dispatch s depth (.scripted (effects ++ [.call "check_fate"]))) w = (.ok (), v)) :
    ∃ levels u, outcome (applyEffects s (dispatch s levels) effects) w = (.ok (), u) ∧
      (outcome (dispatch s levels (.named "check_fate")) u).1 = .ok () ∧ Fated s u v ∧
      v.game.revision = u.game.revision + 1 := by
  obtain ⟨levels, u, ran, called⟩ := exists_of_scripted done
  have law := KeepsWrites.law s
  have early := (law.applyEffects (law.dispatch levels) effects).of_outcome ran
  have late := (law.dispatch levels (.named "check_fate")).of_outcome called
  have known := get?_check_fate (given.trans early) late own
  exact ⟨levels, u, ran, congrArg Prod.fst called, fated_of_named knows known called⟩

theorem revision_le_of_applyEffects {levels : Nat} {effects : List Effect}
    (ran : outcome (applyEffects s (dispatch s levels) effects) w = (.ok (), u)) :
    w.game.revision ≤ u.game.revision := by
  have law := Unfolds.law s
  obtain ⟨between, -, grown⟩ := (law.applyEffects (law.dispatch levels) effects).of_outcome ran
  rw [grown.revision]
  exact Nat.le_add_right _ _

theorem fire_scripted {event : Event} {effects : List Effect} (imperative : event.isNarrative = false)
    (acts : event.action = some (.scripted effects)) :
    fire s perform (some event) = perform (.scripted effects) := by
  unfold fire trigger
  dsimp only
  rw [imperative, acts]
  rfl

/-- Who arrives where a list of effects awaits is shown what these leave. -/
theorem outcome_dispatch_arrival {depth : Nat} {exit : Exit} {site : Site} {event : Event} {dice : Dice}
    {effects : List Effect} (idle : exit.action = none) (found : s.script.site exit.target = .ok site)
    (arrives : s.arrives w.game.state.site site = true)
    (fired : Event.select site.events w.game.dice = .ok (some event, dice))
    (imperative : event.isNarrative = false) (acts : event.action = some (.scripted effects))
    (done : outcome (dispatch s (depth + 1) (exitAction exit)) w = (.ok (), v)) :
    ∃ x, outcome (dispatch s depth (.scripted effects)) (reached s w site dice) = (.ok (), x) ∧
      outcome (refresh s true (x.game.revision == (reached s w site dice).game.revision)) x =
        (.ok (), v) := by
  rw [exitAction, idle, Option.getD_none, dispatch_travel, goTo_of_found found, outcome_passage,
    Bool.not_false, onlyIf_true, arrives] at done
  have kept : Obeys (Keeps _) (payLeg s w.game.state.site site) := Keeps.payLeg framed_dice _ _
  have undrawn : (outcome (payLeg s w.game.state.site site) w).2.game.dice = w.game.dice :=
    congrArg Prod.fst (kept w)
  unfold reached
  rcases paid : outcome (payLeg s w.game.state.site site) w with ⟨answer, p⟩
  rw [paid] at done undrawn
  cases answer with
  | error stop => cases done
  | ok _ =>
    dsimp only at done undrawn ⊢
    have same : (p.game.moveTo site.id).dice = w.game.dice := undrawn
    rw [outcome_welcome, same, fired] at done
    dsimp only at done
    rw [fire_scripted imperative acts] at done
    rcases run : outcome (dispatch s depth (.scripted effects))
      (World.selected { p with game := p.game.moveTo site.id } site dice) with ⟨answer, x⟩
    rw [run] at done
    cases answer with
    | error stop => cases done
    | ok _ => exact ⟨x, rfl, done⟩

theorem KeepsFate.of_suffix {registry later : Registry Routine} (own : KeepsFate later)
    (kept : registry.writes <:+ later.writes) : KeepsFate registry :=
  fun routine among => own routine (kept.mem among)

theorem fated_of_performed {depth : Nat} {action : Action} {effects : List Effect} {start : World}
    (knows : s.knowsRegistry = true) (given : Routine.builtin.writes <:+ w.registry.writes)
    (leads : EndsInFate s w action effects start) (own : KeepsFate v.registry)
    (done : outcome (dispatch s depth action) w = (.ok (), v)) :
    ∃ levels u, outcome (applyEffects s (dispatch s levels) effects) start = (.ok (), u) ∧
      (outcome (dispatch s levels (.named "check_fate")) u).1 = .ok () ∧ Fated s u v := by
  cases leads with
  | scripted =>
    obtain ⟨levels, u, ran, called, fated, -⟩ := fated_of_scripted knows given own done
    exact ⟨levels, u, ran, called, fated⟩
  | @arrival exit site event dice _ idle found arrives fired imperative acts =>
    cases depth with
    | zero =>
      rw [exitAction, idle] at done
      cases done
    | succ depth =>
      obtain ⟨x, ran, shown⟩ :=
        outcome_dispatch_arrival idle found arrives fired imperative acts done
      have early : w.registry.writes <:+ (reached s w site dice).registry.writes :=
        ((Keeps.payLeg framed_registry w.game.state.site site).mono KeepsWrites.of_keeps) w
      have late := ((KeepsWrites.law s).refresh _ _).of_outcome shown
      obtain ⟨levels, u, effective, called, fated, offered⟩ :=
        fated_of_scripted knows (given.trans early) (own.of_suffix late) ran
      have most := revision_le_of_applyEffects effective
      -- the panel has been replaced since the arrival, so that the exits are not shown over it
      have renewed : (x.game.revision == (reached s w site dice).game.revision) = false := by
        rw [beq_eq_false_iff_ne]
        omega
      rw [renewed, outcome_refresh] at shown
      cases shown
      exact ⟨levels, u, effective, called, fated.showState⟩

end Play

namespace Setting

variable {s : Setting}

/-- Where a choice succeeds that does effects and then looks at the fate of the journey, or that leads to a
site whose event does so, the journey is over if there is no health or a debt after these effects: the log
ends with the cause and the last words, nothing is offered, and no sequence of choices changes anything
again. Otherwise the exits of the site are offered, and the state is shown as it is. -/
theorem fate_sticks (knows : s.knowsRegistry = true) (dice : Dice) (operations : List Operation)
    (depth : Nat) (index : Int) :
    let w := s.after (s.newWorld Routine.builtin dice) operations
    ∀ choice effects start reply v, w.game.panel[index.toNat]? = some choice →
      EndsInFate s w choice.action effects start →
      outcome (within s depth (.choose index)) w = (.ok reply, v) → KeepsFate v.registry →
      ∃ levels u, outcome (applyEffects s (dispatch s levels) effects) start = (.ok (), u) ∧
        (outcome (dispatch s levels (.named "check_fate")) u).1 = .ok () ∧
        v.game.state = u.game.state ∧
        (u.game.state.status.hp ≤ 0 ∨ u.game.state.status.money < 0 →
          Over s u v ∧
            ∀ choices : List Operation, (∀ o ∈ choices, ∃ index, o.command = .choose index) →
              s.after v choices = v ∧
                ∀ index depth, Refused (within s depth (.choose index)) v (.noSuchOption index 0)) ∧
        (¬(u.game.state.status.hp ≤ 0 ∨ u.game.state.status.money < 0) → Continues s v) := by
  intro w choice effects start reply v offered leads chosen own
  obtain ⟨_, chosen⟩ := reply_eq_ok chosen
  obtain ⟨choice', there, performed⟩ := choose_eq_ok chosen
  rw [offered] at there
  cases there
  have given : Routine.builtin.writes <:+ w.registry.writes :=
    s.writes_suffix (s.newWorld Routine.builtin dice) operations
  obtain ⟨levels, u, ran, called, same, fate⟩ := fated_of_performed knows given leads own performed
  have lost : u.game.state.isLost = true ↔
      u.game.state.status.hp ≤ 0 ∨ u.game.state.status.money < 0 := by
    rw [State.isLost, Bool.or_eq_true, decide_eq_true_iff, decide_eq_true_iff]
  refine ⟨levels, u, ran, called, same, fun ended => ?_, fun alive => ?_⟩
  · rw [if_pos (lost.2 ended)] at fate
    exact ⟨fate, fun choices chosen => choices_of_no_panel fate.panel chosen⟩
  · rwa [if_neg fun ended => alive (lost.1 ended)] at fate

end Setting

def Script.swamp : Script where
  sites := [
    { id := "ford", name := "Ford", exits := [{ target := "swamp" }] },
    { id := "swamp", name := "Swamp", exits := [{ target := "ford" }]
      events := [
        { id := "fever"
          action := some (.scripted [.mutate "hp" (-200) "fever", .call "check_fate"]) }] }]
  events := []
  entry := { site := "ford" }

def Setting.swamp : Setting where
  script := .swamp
  cost := .flat 1 10

def World.swamp : World :=
  Setting.swamp.after (Setting.swamp.newWorld Routine.builtin (.ofList [])) [{ command := .start }]

theorem Setting.fate_sticks_swamp :
    let s := Setting.swamp
    let w := World.swamp
    let gone := outcome (within s 3 (.choose 0)) w
    s.knowsRegistry = true ∧ gone.1.isOk = true ∧ KeepsFate gone.2.registry ∧
      (∃ choice, w.game.panel[0]? = some choice ∧
        EndsInFate s w choice.action [.mutate "hp" (-200) "fever"]
          (reached s w Script.swamp.sites[1] w.game.dice)) ∧
      gone.2.game.state.status.hp = -100 ∧ gone.2.game.panel = [] ∧
      s.after gone.2 [{ command := .choose 0 }, { command := .choose 0 }] = gone.2 := by
  intro s w gone
  have ended : gone.1.isOk = true := by decide +kernel
  have dead : gone.2.game.state.status.hp = -100 := by decide +kernel
  have before : Routine.builtin.writes <:+ World.swamp.registry.writes :=
    writes_suffix .swamp (Setting.swamp.newWorld Routine.builtin (.ofList [])) [{ command := .start }]
  have after : KeepsWrites w _ gone.2 := (KeepsWrites.law s).within 3 (.choose 0) w
  have sized : gone.2.registry.writes.length = Routine.builtin.writes.length := by decide +kernel
  have same : gone.2.registry.writes = Routine.builtin.writes :=
    ((before.trans after).eq_of_length sized.symm).symm
  have own : KeepsFate gone.2.registry := by
    unfold KeepsFate
    rw [same]
    exact keepsFate_builtin
  have offered : World.swamp.game.panel[0]? =
      some ⟨"go to Swamp", exitAction { target := "swamp" }⟩ := by rfl
  have leads : EndsInFate s w (exitAction { target := "swamp" }) [.mutate "hp" (-200) "fever"]
      (reached s w Script.swamp.sites[1] w.game.dice) :=
    .arrival rfl (show s.script.site "swamp" = .ok Script.swamp.sites[1] from rfl)
      (by decide +kernel) (Event.select_of_none (by decide +kernel) _) rfl rfl
  have fated : gone.2.game.panel = [] ∧
      s.after gone.2 [{ command := .choose 0 }, { command := .choose 0 }] = gone.2 := by
    rcases run : gone with ⟨answer, v⟩
    rw [run] at ended own dead
    cases answer with
    | error stop => cases ended
    | ok reply =>
      obtain ⟨_, u, -, -, still, lost, -⟩ :=
        fate_sticks rfl (.ofList []) [{ command := .start }] 3 0 _ _ _ _ _ offered leads run own
      rw [still] at dead
      obtain ⟨fate, never⟩ := lost (.inl (by rw [dead]; decide))
      exact ⟨fate.panel, (never _ (by simp)).1⟩
  exact ⟨rfl, ended, own, ⟨_, offered, leads⟩, dead, fated⟩

end Gamebook
