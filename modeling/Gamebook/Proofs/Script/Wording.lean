import Gamebook.Proofs.Script.Playable
import Gamebook.Proofs.Script.Written

/-! Scripts whose wording is in order.

Reading a script leaves five kinds of fields unchecked: the names and targets of exits, the texts of
events and of text effects, and the sites that effects go to. Where these are texts, or null where
nothing need be given, whatever has been read is playable.
-/

set_option autoImplicit false

namespace Gamebook

namespace Value

def isString : Value → Bool
  | .text _ => true
  | _ => false

def isStringOrNull (v : Value) : Bool :=
  v.isNull || v.isString

theorem eq_text_of_isString {v : Value} (string : v.isString = true) : ∃ s, v = .text s := by
  cases v with
  | text s => exact ⟨s, rfl⟩
  | _ => cases string

theorem eq_null_or_text {v : Value} (string : v.isStringOrNull = true) :
    v = .null ∨ ∃ s, v = .text s := by
  cases v with
  | null => exact .inl rfl
  | text s => exact .inr ⟨s, rfl⟩
  | _ => cases string

end Value

mutual

def Action.isWorded : Action → Bool
  | .scripted effects => Effect.allWorded effects
  | _ => true

def Effect.allWorded : List Effect → Bool
  | [] => true
  | effect :: rest => effect.isWorded && Effect.allWorded rest

def Effect.isWorded : Effect → Bool
  | .text text _ => text.isString
  | .goTo site _ => site.isString
  | .offer choices => Choice.allWorded choices
  | _ => true

def Choice.allWorded : List Choice → Bool
  | [] => true
  | choice :: rest => choice.isWorded && Choice.allWorded rest

def Choice.isWorded : Choice → Bool
  | ⟨_, action⟩ => action.isWorded

end

def Event.isWorded (event : Event) : Bool :=
  event.text.isStringOrNull && event.choices.all Choice.allWorded && event.action.all (·.isWorded)

def Exit.isWorded (exit : Exit) : Bool :=
  exit.name.isStringOrNull && exit.target.isStringOrNull && exit.action.all (·.isWorded)

def Script.isWorded (script : Script) : Bool :=
  script.events.all (·.isWorded) &&
    script.sites.all fun site => site.exits.all (·.isWorded) && site.events.all (·.isWorded)

theorem Effect.isWorded_of_mem {effects : List Effect} (worded : Effect.allWorded effects = true)
    {effect : Effect} (member : effect ∈ effects) : effect.isWorded = true := by
  induction effects with
  | nil => cases member
  | cons first rest ih =>
    obtain ⟨own, worded⟩ := Bool.and_eq_true_iff.1 worded
    rcases List.mem_cons.1 member with rfl | member
    · exact own
    · exact ih worded member

theorem Choice.isWorded_of_mem {choices : List Choice} (worded : Choice.allWorded choices = true)
    {choice : Choice} (member : choice ∈ choices) : choice.isWorded = true := by
  induction choices with
  | nil => cases member
  | cons first rest ih =>
    obtain ⟨own, worded⟩ := Bool.and_eq_true_iff.1 worded
    rcases List.mem_cons.1 member with rfl | member
    · exact own
    · exact ih worded member

/-! What is written is followed case by case. -/

mutual

theorem Action.Written.playable {action : Action} (written : action.Written)
    (worded : action.isWorded = true) : action.Playable := by
  cases written with
  | named name => exact .named name
  | @scripted effects each =>
    exact .scripted fun effect member =>
      (each effect member).playable (Effect.isWorded_of_mem worded member)

theorem Effect.Written.playable {effect : Effect} (written : effect.Written)
    (worded : effect.isWorded = true) : effect.Playable := by
  cases written with
  | text raw types =>
    obtain ⟨s, rfl⟩ := Value.eq_text_of_isString worded
    exact .text s types
  | mutate key delta reason => exact .mutate key delta reason
  | goTo site instantly =>
    obtain ⟨s, rfl⟩ := Value.eq_text_of_isString worded
    exact .goTo s instantly
  | trigger event => exact .trigger event
  | call action => exact .call action
  | @offer choices each =>
    exact .offer fun choice member =>
      (each choice member).playable (Choice.isWorded_of_mem worded member)
  | refresh state options => exact .refresh state options

theorem Choice.Written.playable {choice : Choice} (written : choice.Written)
    (worded : choice.isWorded = true) : choice.Playable := by
  cases written with
  | of text written => exact .of text (written.playable worded)

end

theorem Event.Written.playable {event : Event} (written : event.Written)
    (worded : event.isWorded = true) : event.Playable := by
  obtain ⟨worded, action⟩ := Bool.and_eq_true_iff.1 worded
  obtain ⟨text, choices⟩ := Bool.and_eq_true_iff.1 worded
  refine ⟨Value.eq_null_or_text text, fun own offers choice member => ?_, fun own acts => ?_⟩
  · rw [offers] at choices
    exact (written.choices own offers choice member).playable (Choice.isWorded_of_mem choices member)
  · rw [acts] at action
    exact (written.action own acts).playable action

theorem Exit.Written.playable {exit : Exit} (written : exit.Written)
    (worded : exit.isWorded = true) : exit.Playable := by
  obtain ⟨worded, own⟩ := Bool.and_eq_true_iff.1 worded
  obtain ⟨name, target⟩ := Bool.and_eq_true_iff.1 worded
  have led := Value.eq_null_or_text target
  refine ⟨Value.eq_null_or_text name, led, ?_, written.far⟩
  unfold Play.exitAction
  cases acts : exit.action with
  | some action =>
    rw [acts] at own
    exact (written.action action acts).playable own
  | none =>
    -- without an action there is a target
    rcases led with null | ⟨site, led⟩
    · have leads := written.leads
      rw [null, acts] at leads
      rcases leads with led | acts
      · cases led
      · cases acts
    · rw [led]
      exact .direct (Routine.playable_travel site)

/-- A script that can be read is playable when its wording is in order and the weights of its events
have finite sums. -/
theorem Script.playable_of_read {v : Value} {script : Script} (read : Script.read v = .ok script)
    (worded : script.isWorded = true) (weights : ∀ site ∈ script.sites, site.hasFiniteWeights = true) :
    script.Playable := by
  have written := written_of_read read
  obtain ⟨eventsWorded, sitesWorded⟩ := Bool.and_eq_true_iff.1 worded
  refine ⟨fun site member => ?_, fun event member => ?_⟩
  · obtain ⟨exits, events⟩ := Bool.and_eq_true_iff.1 (List.all_eq_true.1 sitesWorded site member)
    exact ⟨fun exit listed => (written.exits site member exit listed).playable
        (List.all_eq_true.1 exits exit listed),
      fun event listed => (written.siteEvents site member event listed).playable
        (List.all_eq_true.1 events event listed), weights site member⟩
  · exact (written.events event member).playable (List.all_eq_true.1 eventsWorded event member)

end Gamebook
