import Gamebook.Proofs.Play.Panel
import Gamebook.Proofs.Play.Selection
import Gamebook.Proofs.Script.Filling
import Gamebook.Proofs.Session.Report

/-! Playing what is playable.

Where the script, the registry and the panel are playable, they stay so, and what is done stops for
few reasons: an id or a key of the script that is not known, or a number of too many digits. No fault
of shape is left, and neither is any fault of the draws or of the days.
-/

set_option autoImplicit false

namespace Gamebook

/-- The faults that are left where all is playable. A number of too many digits is one of the state,
or one of the change that has just been made. -/
inductive Excused (g : Game) : Fault → Prop where
  | site (id : String) : Excused g (.unknownSite (.text id))
  | event (id : String) : Excused g (.unknownEvent (.text id))
  | action (name : String) : Excused g (.unknownAction name)
  | key (key : Value) : Excused g (.invalidKey key)
  | state (unwritable : g.state.isWritable = false) : Excused g .badNumeral
  | change {m : Mutation} (last : g.history.getLast? = some (.mutated m))
      (unwritable : m.isWritable = false) : Excused g .badNumeral

/-- The script is playable, and no leg leads back in time. -/
structure Setting.Playable (s : Setting) : Prop where
  script : s.script.Playable
  forward : ∀ departure ∈ s.script.sites, ∀ arrival : Site, 0 ≤ (s.cost departure arrival).days

structure World.Playable (w : World) : Prop where
  registry : w.registry.Playable
  panel : ∀ choice ∈ w.game.panel, choice.Playable

namespace Event

theorem mem_of_select {events : List Event} {dice dice' : Dice} {event : Event}
    (selected : select events dice = .ok (some event, dice')) : event ∈ events := by
  unfold select at selected
  split at selected
  · split at selected <;> cases selected
    simp
  · rename_i one found
    cases selected
    have among : event ∈ events.filter isWeighted := by rw [found]; simp
    exact (List.mem_filter.1 among).1
  · dsimp only at selected
    split at selected
    · split at selected
      · obtain ⟨drawn, -⟩ := Prod.mk.inj (Except.ok.inj selected)
        exact (List.mem_filter.1 (List.mem_of_getElem? drawn)).1
      · cases selected
    · cases selected

-- A draw over a finite sum does not fail.
theorem exists_select {site : Site} (weights : site.hasFiniteWeights = true) (dice : Dice) :
    ∃ event? dice', select site.events dice = .ok (event?, dice') := by
  by_cases none : site.events.filter isWeighted = []
  · exact ⟨_, _, select_of_none none dice⟩
  · obtain ⟨event, -, -, selected⟩ := exists_select_positive weights none dice
    exact ⟨_, _, selected⟩

end Event

theorem Counter.read_eq_error {key : Value} {fault : Fault} (failed : read key = .error fault) :
    fault = .invalidKey key := by
  unfold read at failed
  split at failed
  · split at failed <;> cases failed
    rfl
  · cases failed
    rfl

-- A whole delta is refused only for its key.
theorem Game.mutate_eq_error {g : Game} {key reason : Value} {delta : Int} {fault : Fault}
    (failed : g.mutate key (.int delta) reason = .error fault) : fault = .invalidKey key := by
  rcases bind_eq_error failed with failed | ⟨_, _, failed⟩
  · rcases bind_eq_error failed with failed | ⟨_, _, failed⟩
    · exact Counter.read_eq_error failed
    · cases failed
  · cases failed

theorem Choice.playable_iff {choice : Choice} :
    choice.Playable ↔ (∃ text, choice.text = .text text) ∧ choice.action.Playable := by
  constructor
  · rintro ⟨text, acts⟩
    exact ⟨⟨text, rfl⟩, acts⟩
  · obtain ⟨text, action⟩ := choice
    rintro ⟨⟨text, rfl⟩, acts⟩
    exact .of text acts

namespace Play

/-- What is playable stays so, and a fault is one of those that are left. -/
def Safe (w : World) (stop : Option Stop) (v : World) : Prop :=
  w.Playable → v.Playable ∧ ∀ fault, stop = some (.fault fault) → Excused v.game fault

section

variable {s : Setting} {A : Action → Prop}

/-- Options with texts are filled with texts, and keep their actions. -/
theorem fillChoices_of_labelled (labelled : s.script.Labelled) (state : State) {choices : List Choice}
    (each : ∀ choice ∈ choices, (∃ raw, choice.text = .text raw) ∧ A choice.action) :
    (∃ filled, choices.mapM (fillChoice s state) = .ok filled ∧
        ∀ choice ∈ filled, (∃ text, choice.text = .text text) ∧ A choice.action) ∨
      choices.mapM (fillChoice s state) = .error .badNumeral ∧ state.isWritable = false := by
  have one (choice : Choice) (member : choice ∈ choices) :
      (∃ filled, fillChoice s state choice = .ok filled ∧
          (∃ text, filled.text = .text text) ∧ A filled.action) ∨
        ∃ fault, fillChoice s state choice = .error fault ∧
          (fault = .badNumeral ∧ state.isWritable = false) := by
    obtain ⟨⟨raw, written⟩, acts⟩ := each choice member
    unfold fillChoice
    rw [written]
    rcases Template.fill_text labelled raw with ⟨filled, done⟩ | ⟨failed, unwritable⟩
    · exact .inl ⟨{ choice with text := .text filled }, by rw [done]; rfl, ⟨filled, rfl⟩, acts⟩
    · exact .inr ⟨.badNumeral, by rw [failed]; rfl, rfl, unwritable⟩
  rcases mapM_ok_or one with filled | ⟨_, failed, rfl, unwritable⟩
  · exact .inl filled
  · exact .inr ⟨failed, unwritable⟩

theorem menu_of_labelled (labelled : s.script.Labelled) (state : State) {site : Site}
    (own : ∀ exit ∈ site.exits, exit.Labelled ∧ A (exitAction exit)) :
    (∃ choices, menu s state site = .ok choices ∧
        ∀ choice ∈ choices, (∃ text, choice.text = .text text) ∧ A choice.action) ∨
      menu s state site = .error .badNumeral ∧ state.isWritable = false := by
  have named : ∃ listed, site.exits.mapM (listExit s) = .ok listed ∧
      ∀ choice ∈ listed, (∃ raw, choice.text = .text raw) ∧ A choice.action := by
    refine mapM_eq_ok fun exit member => ?_
    obtain ⟨labelled, acts⟩ := own exit member
    have text : ∃ label, Template.exitLabel s.script s.config.text exit = .ok label ∧
        ∃ name, label = .text name := Template.exitLabel_of_labelled labelled
    obtain ⟨label, named, name, rfl⟩ := text
    exact ⟨⟨.text name, exitAction exit⟩, by unfold listExit; rw [named]; rfl, ⟨name, rfl⟩, acts⟩
  obtain ⟨listed, named, each⟩ := named
  unfold menu
  rw [named]
  exact fillChoices_of_labelled labelled state each

end

theorem fillChoices_of_playable {s : Setting} (playable : s.script.Playable) (state : State)
    {choices : List Choice} (each : ∀ choice ∈ choices, choice.Playable) :
    (∃ filled, choices.mapM (fillChoice s state) = .ok filled ∧
        ∀ choice ∈ filled, choice.Playable) ∨
      choices.mapM (fillChoice s state) = .error .badNumeral ∧ state.isWritable = false := by
  simp only [Choice.playable_iff] at each ⊢
  exact fillChoices_of_labelled playable.labelled state each

theorem menu_of_playable {s : Setting} (playable : s.script.Playable) (state : State) {site : Site}
    (own : site.Playable) :
    (∃ choices, menu s state site = .ok choices ∧ ∀ choice ∈ choices, choice.Playable) ∨
      menu s state site = .error .badNumeral ∧ state.isWritable = false := by
  have each (exit : Exit) (member : exit ∈ site.exits) :
      exit.Labelled ∧ (exitAction exit).Playable :=
    ⟨(own.exits exit member).labelled, (own.exits exit member).action⟩
  simp only [Choice.playable_iff]
  exact menu_of_labelled playable.labelled state each

namespace Safe

variable {s : Setting}

theorem composes : Composes Safe where
  still w playable := ⟨playable, by rintro _ ⟨⟩⟩
  trans := by
    intro u v w stop early late playable
    exact late (early playable).1
  caught := by
    intro u v stop fault early playable
    obtain ⟨registry, panel⟩ := (early playable).1
    exact ⟨⟨registry, panel⟩, by rintro _ ⟨⟩⟩

theorem stop {w : World} {fault : Fault} (excused : Excused w.game fault) :
    Safe w (some (.fault fault)) w := by
  refine fun playable => ⟨playable, ?_⟩
  rintro _ ⟨⟩
  exact excused

theorem of_panel {w : World} {g : Game} (panel : g.panel = w.game.panel) :
    Safe w none { w with game := g } := by
  refine fun playable => ⟨⟨playable.registry, ?_⟩, by rintro _ ⟨⟩⟩
  dsimp only
  rw [panel]
  exact playable.panel

theorem update {f : Game → Game} (panel : ∀ g, (f g).panel = g.panel) :
    Obeys Safe (update f) :=
  fun w => of_panel (panel w.game)

variable (playable : s.Playable)
include playable

theorem fill (raw : String) : Obeys Safe (fill s (.text raw)) := by
  intro w
  unfold Heeds
  rw [reads_fill s (.text raw) w]
  rcases Template.fill_text playable.script.labelled raw with ⟨filled, done⟩ | ⟨failed, unwritable⟩
  · rw [done]
    exact composes.still w
  · rw [failed]
    exact stop (.state unwritable)

theorem narrate (raw : String) (types : List String) : Obeys Safe (narrate s (.text raw) types) := by
  apply composes.seq (fill playable raw)
  intro text
  exact update fun _ => rfl

theorem offer (origin : Origin) {choices : List Choice}
    (each : ∀ choice ∈ choices, choice.Playable) : Obeys Safe (offer s origin choices) := by
  intro w
  unfold Heeds
  rw [outcome_offer]
  rcases fillChoices_of_playable playable.script w.game.state each with
    ⟨filled, done, acts⟩ | ⟨failed, unwritable⟩
  · rw [done]
    exact fun own => ⟨⟨own.registry, acts⟩, by rintro _ ⟨⟩⟩
  · rw [failed]
    exact stop (.state unwritable)

theorem offerExits : Obeys Safe (offerExits s) := by
  intro w
  unfold Heeds
  rw [outcome_offerExits]
  cases here : s.script.findSite? w.game.state.site with
  | none => exact stop (.site _)
  | some site =>
    have own := playable.script.sites site (Script.mem_of_findSite? here)
    dsimp only
    rcases menu_of_playable playable.script w.game.state own with
      ⟨choices, listed, acts⟩ | ⟨failed, unwritable⟩
    · rw [listed]
      exact fun kept => ⟨⟨kept.registry, acts⟩, by rintro _ ⟨⟩⟩
    · rw [failed]
      exact stop (.state unwritable)

theorem refresh (state options : Bool) : Obeys Safe (refresh s state options) := by
  have shows : Obeys Safe (Play.update (·.showState)) := update fun _ => rfl
  apply composes.seq (composes.onlyIf shows _)
  intro _
  exact composes.onlyIf (offerExits playable) _

omit playable in
theorem mutate (key : Value) (delta : Int) (reason : Value) :
    Obeys Safe (mutate s key (.int delta) reason) := by
  intro w
  unfold Heeds
  rw [outcome_mutate]
  cases changed : w.game.mutate key (.int delta) reason with
  | error fault =>
    rw [Game.mutate_eq_error changed]
    exact stop (.key key)
  | ok change =>
    obtain ⟨m, g⟩ := change
    have grown := w.game.grows_mutate changed
    -- the change stands, whether or not it can be told
    have changes : Safe w none { w with game := g } := of_panel grown.panel
    dsimp only
    cases writable : m.isWritable with
    | true => exact composes.trans changes (of_panel rfl)
    | false =>
      have last : g.history.getLast? = some (.mutated m) := by
        rw [grown.history]
        simp
      exact composes.trans changes (stop (.change last writable))

omit playable in
theorem pay {cost : Cost} (forward : 0 ≤ cost.days) : Obeys Safe (pay s cost) := by
  have passes : Obeys Safe (attempt (·.pass cost.days)) := by
    intro w
    unfold Heeds
    rw [outcome_attempt]
    have ahead : ¬ cost.days < 0 := by omega
    unfold Game.pass State.advance
    rw [if_neg ahead]
    exact of_panel rfl
  apply composes.seq (composes.onlyIf passes _)
  intro _
  exact composes.onlyIf (mutate _ _ _) _

omit playable in
theorem liftFault_site {id : String} {w : World} :
    Heeds Safe (liftFault (s.script.site (.text id))) w := by
  rw [Script.site_text]
  cases s.script.findSite? id with
  | none => exact stop (.site id)
  | some site => exact composes.still w

theorem payLeg (departure : String) (arrival : Site) : Obeys Safe (payLeg s departure arrival) := by
  intro w
  apply composes.bind liftFault_site
  intro site v looked
  have listed := Script.mem_of_findSite? (findSite?_of_outcome looked)
  exact pay (playable.forward site listed arrival) v

omit playable in
theorem draw {site : Site} (weights : site.hasFiniteWeights = true) : Obeys Safe (draw site) := by
  intro w
  obtain ⟨event?, dice, selected⟩ := Event.exists_select weights w.game.dice
  unfold Heeds
  rw [outcome_draw, selected]
  exact of_panel rfl

omit playable in
theorem playable_of_draw {site : Site} (own : ∀ event ∈ site.events, event.Playable) {w v : World}
    {event : Event} (drawn : outcome (Play.draw site) w = (.ok (some event), v)) :
    event.Playable := by
  rw [outcome_draw] at drawn
  cases selected : Event.select site.events w.game.dice with
  | error fault =>
    rw [selected] at drawn
    cases drawn
  | ok answer =>
    obtain ⟨event?, dice⟩ := answer
    rw [selected] at drawn
    obtain ⟨rfl, -⟩ : event? = some event ∧ _ := by simpa using drawn
    exact own event (Event.mem_of_select selected)

omit playable in
theorem known {name : String} {w : World} : Heeds Safe (Play.known s name) w := by
  unfold Heeds
  rw [outcome_known]
  cases if s.knowsRegistry then w.registry.get? name else none with
  | none => exact stop (.action name)
  | some routine => exact composes.still w

omit playable in
theorem playable_of_known {name : String} {routine : Routine} {w v : World}
    (registry : w.registry.Playable)
    (found : outcome (Play.known s name) w = (.ok routine, v)) : routine.Playable := by
  rw [outcome_known] at found
  cases held : if s.knowsRegistry then w.registry.get? name else none with
  | none =>
    rw [held] at found
    cases found
  | some other =>
    rw [held] at found
    cases found
    split at held
    · exact registry name routine held
    · cases held

variable {perform : Action → Play Unit}
  (performed : ∀ action, action.Playable → Obeys Safe (perform action))
include performed

theorem trigger {event : Event} (own : event.Playable) : Obeys Safe (trigger s perform event) := by
  unfold Play.trigger
  split
  · have tells : Obeys Safe
        (onlyIf (!event.text.isNull) (Play.narrate s event.text [LineType.event.name])) := by
      rcases own.text with null | ⟨raw, text⟩
      · rw [null]
        exact composes.pure ()
      · rw [text]
        exact composes.onlyIf (narrate playable raw _) _
    apply composes.seq tells
    intro _
    split
    · rename_i choices offered
      exact offer playable .given (own.choices choices offered)
    · exact composes.pure ()
  · split
    · rename_i action acts
      exact performed action (own.action action acts)
    · exact composes.pure ()

theorem fire {event? : Option Event} (own : ∀ event, event? = some event → event.Playable) :
    Obeys Safe (fire s perform event?) := by
  cases event? with
  | none => exact composes.pure ()
  | some event => exact trigger playable performed (own event rfl)

theorem arrive {site : Site} (own : site.Playable) : Obeys Safe (arrive s perform site) := by
  intro w
  apply composes.bind (draw own.weights w)
  intro event? v drawn
  have fires : Obeys Safe (Play.fire s perform event?) := by
    apply fire playable performed
    intro event given
    rw [given] at drawn
    exact playable_of_draw own.events drawn
  exact composes.reply fires event? v

theorem goTo (id : String) (instantly : Bool) :
    Obeys Safe (goTo s perform (.text id) instantly) := by
  intro w
  apply composes.bind liftFault_site
  intro arrival v looked
  have own := playable.script.sites arrival (Script.mem_of_findSite? (findSite?_of_outcome looked))
  have moves : Obeys Safe (Play.update (·.moveTo arrival.id)) := update fun _ => rfl
  have arrives := composes.map (arrive playable performed own) fun _ => ()
  apply heeds_game_bind
  refine composes.seq (composes.onlyIf (payLeg playable _ arrival) _) (fun _ => ?_) v
  apply composes.seq moves
  intro _ u
  apply heeds_game_bind
  refine composes.seq (composes.onlyIf arrives _) (fun _ x => ?_) u
  apply heeds_game_bind
  exact refresh playable _ _ x

theorem triggerId (id : String) : Obeys Safe (triggerId s perform (.text id)) := by
  intro w
  have looked : Heeds Safe (liftFault (s.script.event (.text id))) w := by
    rw [Script.event_text]
    cases s.script.findEvent? id with
    | none => exact stop (.event id)
    | some event => exact composes.still w
  apply composes.bind looked
  intro event v found
  obtain ⟨found, -⟩ := liftFault_eq_ok found
  rw [Script.event_text] at found
  split at found
  · rename_i other listed
    cases found
    exact trigger playable performed (playable.script.events _ (List.mem_of_find?_eq_some listed)) v
  · cases found

theorem start : Obeys Safe (start s perform) := by
  apply composes.seq (composes.onlyIf (narrate playable _ _) _)
  intro _
  exact goTo playable performed s.script.entry.site true

omit playable in
theorem choose {index : Nat} {w : World} (offered : index < w.game.panel.length) :
    Heeds Safe (choose perform index) w := by
  intro own
  have listed : w.game.panel[index]? = some w.game.panel[index] := List.getElem?_eq_getElem offered
  have acts := own.panel _ (List.getElem_mem offered)
  unfold Play.choose
  rw [outcome_game_bind]
  simp only [Int.natCast_nonneg, if_true, Int.toNat_natCast, listed]
  exact performed _ acts.action w own

theorem applyEffect {effect : Effect} (own : effect.Playable) :
    Obeys Safe (applyEffect s perform effect) := by
  cases own with
  | text raw types => exact narrate playable raw types
  | mutate key delta reason => exact mutate key delta reason
  | goTo site instantly => exact goTo playable performed site instantly
  | trigger event => exact triggerId playable performed event
  | call action => exact performed _ (.named action)
  | offer each => exact offer playable .given each
  | refresh state options => exact refresh playable state options

theorem applyEffects {effects : List Effect} (own : ∀ effect ∈ effects, effect.Playable) :
    Obeys Safe (applyEffects s perform effects) := by
  induction effects with
  | nil => exact composes.pure ()
  | cons effect rest ih =>
    have others := ih fun other member => own other (by simp [member])
    apply composes.seq (applyEffect playable performed (own effect (by simp)))
    intro _
    exact others

theorem run {command : Command} (own : command.Playable) : Obeys Safe (run s perform command) := by
  cases own with
  | start => exact composes.reply (start playable performed) _
  | fill raw => exact composes.seq (fill playable raw) fun text => composes.pure _
  | say text types =>
    have said : Obeys Safe (Play.say text types) := update fun _ => rfl
    exact composes.reply said _
  | narrate raw types => exact composes.reply (narrate playable raw types) _
  | offer each => exact composes.reply (offer playable .given each) _
  | mutate key delta reason => exact composes.reply (mutate key delta reason) _
  | goTo site instantly => exact composes.reply (goTo playable performed site instantly) _
  | trigger event => exact composes.reply (triggerId playable performed event) _
  | arrive site =>
    intro w
    apply composes.bind liftFault_site
    intro arrival v looked
    have own := playable.script.sites arrival (Script.mem_of_findSite? (findSite?_of_outcome looked))
    exact composes.seq (arrive playable performed own) (fun event? => composes.pure _) v
  | refresh state options => exact composes.reply (refresh playable state options) _
  | perform acts => exact composes.reply (performed _ acts) _
  | get key =>
    intro w
    apply heeds_game_bind
    refine composes.bind ?_ fun n v _ => composes.pure _ v
    unfold State.get
    cases read : Counter.read key with
    | error fault =>
      rw [Counter.read_eq_error read]
      exact stop (.key key)
    | ok counter => exact composes.still w
  | snapshot since =>
    intro w
    apply heeds_game_bind
    exact composes.pure _ w
  | register name acts =>
    have registers : Obeys Safe (Play.register name _) := fun _ kept =>
      ⟨⟨kept.registry.register name acts, kept.panel⟩, by rintro _ ⟨⟩⟩
    exact composes.reply registers _

theorem follow {routine : Routine} (own : routine.Playable) :
    Obeys Safe (follow s perform routine) := by
  match routine, own with
  | .done, _ => exact composes.pure ()
  | .act command next, .act first rest =>
    apply composes.seq (run playable performed first)
    intro reply
    exact follow (rest reply)
  | .attempt command next, .attempt first rest =>
    apply composes.seq (composes.catching (run playable performed first))
    intro reply?
    exact follow (rest reply?)
  | .look next, .look each =>
    intro w
    apply heeds_game_bind
    exact follow (each w.game.state) w

omit performed in
theorem dispatch (depth : Nat) {action : Action} (own : action.Playable) :
    Obeys Safe (dispatch s depth action) := by
  induction depth generalizing action with
  | zero => exact fun w playable => ⟨playable, by rintro _ ⟨⟩⟩
  | succ depth ih =>
    have performed (action : Action) (own : action.Playable) := ih own
    cases own with
    | named name =>
      -- what the registry holds is playable only in a playable world
      intro w kept
      refine composes.bind known (fun routine v found => ?_) kept
      exact follow playable performed (playable_of_known kept.registry found) v
    | scripted each => exact applyEffects playable performed each
    | direct routine => exact follow playable performed routine

end Safe

end Play

end Gamebook
