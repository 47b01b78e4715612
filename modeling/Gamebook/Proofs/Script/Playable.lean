import Gamebook.Game.Play
import Gamebook.Game.Routines

/-! What can be played without a surprise.

Authored data is read with few checks, so a text or the id of a site can be any value, and playing
such data stops with a fault of shape. The judgement `Playable` rules that out: a text is a text
wherever one is filled, an id of a site is one wherever a site is looked up, at every depth to which
actions are nested.
-/

set_option autoImplicit false

namespace Gamebook

mutual

inductive Action.Playable : Action → Prop where
  | named (name : String) : Action.Playable (.named name)
  | scripted {effects : List Effect} (each : ∀ effect ∈ effects, Effect.Playable effect) :
      Action.Playable (.scripted effects)
  | direct {routine : Routine} (playable : Routine.Playable routine) :
      Action.Playable (.direct routine)

inductive Effect.Playable : Effect → Prop where
  | text (raw : String) (types : List String) : Effect.Playable (.text (.text raw) types)
  | mutate (key : Value) (delta : Int) (reason : Value) : Effect.Playable (.mutate key delta reason)
  | goTo (site : String) (instantly : Bool) : Effect.Playable (.goTo (.text site) instantly)
  | trigger (event : String) : Effect.Playable (.trigger event)
  | call (action : String) : Effect.Playable (.call action)
  | offer {choices : List Choice} (each : ∀ choice ∈ choices, Choice.Playable choice) :
      Effect.Playable (.offer choices)
  | refresh (state options : Bool) : Effect.Playable (.refresh state options)

inductive Choice.Playable : Choice → Prop where
  | of (text : String) {action : Action} (playable : Action.Playable action) :
      Choice.Playable ⟨.text text, action⟩

-- Commands that read data, choose by a position or fail by themselves are left out.
inductive Command.Playable : Command → Prop where
  | start : Command.Playable .start
  | fill (raw : String) : Command.Playable (.fill (.text raw))
  | say (text : Value) (types : List String) : Command.Playable (.say text types)
  | narrate (raw : String) (types : List String) : Command.Playable (.narrate (.text raw) types)
  | offer {choices : List Choice} (each : ∀ choice ∈ choices, Choice.Playable choice) :
      Command.Playable (.offer choices)
  | mutate (key : Value) (delta : Int) (reason : Value) :
      Command.Playable (.mutate key (.int delta) reason)
  | goTo (site : String) (instantly : Bool) : Command.Playable (.goTo (.text site) instantly)
  | trigger (event : String) : Command.Playable (.trigger (.text event))
  | arrive (site : String) : Command.Playable (.arrive (.text site))
  | refresh (state options : Bool) : Command.Playable (.refresh state options)
  | perform {action : Action} (playable : Action.Playable action) :
      Command.Playable (.perform action)
  | get (key : Value) : Command.Playable (.get key)
  | snapshot (since : Int) : Command.Playable (.snapshot since)
  | register (name : String) {routine : Routine} (playable : Routine.Playable routine) :
      Command.Playable (.register name routine)

inductive Routine.Playable : Routine → Prop where
  | done : Routine.Playable .done
  | act {command : Command} {next : Reply → Routine} (first : Command.Playable command)
      (rest : ∀ reply, Routine.Playable (next reply)) : Routine.Playable (.act command next)
  | attempt {command : Command} {next : Except Fault Reply → Routine}
      (first : Command.Playable command) (rest : ∀ reply?, Routine.Playable (next reply?)) :
      Routine.Playable (.attempt command next)
  | look {next : State → Routine} (each : ∀ state, Routine.Playable (next state)) :
      Routine.Playable (.look next)

end

theorem Choice.Playable.action {choice : Choice} (playable : choice.Playable) :
    choice.action.Playable := by
  obtain ⟨text, acts⟩ := playable
  exact acts

namespace Routine

theorem playable_travel (site : String) : (Play.travel (.text site)).Playable :=
  .act (.goTo site false) fun _ => .done

theorem playable_rest : rest.Playable := by
  refine .look fun state => ?_
  split
  · exact .act (.say _ _) fun _ => .done
  · exact .act (.mutate _ _ _) fun _ => .act (.mutate _ _ _) fun _ =>
      .act (.refresh true false) fun _ => .done

theorem playable_endJourney : endJourney.Playable :=
  .act (.narrate _ _) fun _ => .act (.offer (by simp)) fun _ => .done

theorem playable_checkFate : checkFate.Playable := by
  refine .look fun state => ?_
  split
  · exact .act (.narrate _ _) fun _ => playable_endJourney
  · split
    · exact .act (.narrate _ _) fun _ => playable_endJourney
    · exact .act (.refresh true true) fun _ => .done

theorem playable_stay : stay.Playable :=
  .act (.refresh false true) fun _ => .done

end Routine

def Registry.Playable (registry : Registry Routine) : Prop :=
  ∀ name routine, registry.get? name = some routine → routine.Playable

namespace Registry

theorem Playable.register {registry : Registry Routine} (playable : registry.Playable)
    (name : String) {routine : Routine} (own : routine.Playable) :
    (registry.register name routine).Playable := by
  intro other found held
  rw [get?_register] at held
  split at held
  · cases held
    exact own
  · exact playable other found held

theorem playable_builtin : Routine.builtin.Playable := by
  have empty : (Registry.empty : Registry Routine).Playable := by
    intro name routine held
    cases held
  exact (((empty.register "rest" Routine.playable_rest).register "check_fate"
    Routine.playable_checkFate).register "end_journey" Routine.playable_endJourney).register "stay"
    Routine.playable_stay

end Registry

/-- What an event says is a text, and what it offers or does is playable. -/
structure Event.Playable (event : Event) : Prop where
  text : event.text = .null ∨ ∃ raw, event.text = .text raw
  choices : ∀ choices, event.choices = some choices → ∀ choice ∈ choices, choice.Playable
  action : ∀ action, event.action = some action → action.Playable

/-- An exit is named by a text, leads to a site or does something playable, and its length is
positive. -/
structure Exit.Playable (exit : Exit) : Prop where
  name : exit.name = .null ∨ ∃ name, exit.name = .text name
  target : exit.target = .null ∨ ∃ site, exit.target = .text site
  action : (Play.exitAction exit).Playable
  distance : 1 ≤ exit.distance

namespace Site

/-- The sum of the positive weights of the events, if there are any, is finite. -/
def hasFiniteWeights (site : Site) : Bool :=
  ((Draw.runningSums ((site.events.filter Event.isWeighted).map (·.weight))).getLast?).all
    Float.isFinite

structure Playable (site : Site) : Prop where
  exits : ∀ exit ∈ site.exits, exit.Playable
  events : ∀ event ∈ site.events, event.Playable
  weights : site.hasFiniteWeights = true

end Site

structure Script.Playable (script : Script) : Prop where
  sites : ∀ site ∈ script.sites, site.Playable
  events : ∀ event ∈ script.events, event.Playable

end Gamebook
