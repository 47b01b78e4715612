import Gamebook.Proofs.Script.Description
import Gamebook.Proofs.Script.Form

/-! What data can describe.

An action that has been read is a name or a list of effects, and the text of an option is a text,
however deep the option is nested. Nothing of the kind holds of the texts that effects and events say:
these are what was written.
-/

set_option autoImplicit false

namespace Gamebook

mutual

inductive Action.Written : Action → Prop where
  | named (name : String) : Action.Written (.named name)
  | scripted {effects : List Effect} (each : ∀ effect ∈ effects, Effect.Written effect) :
      Action.Written (.scripted effects)

inductive Effect.Written : Effect → Prop where
  | text (raw : Value) (types : List String) : Effect.Written (.text raw types)
  | mutate (key : Value) (delta : Int) (reason : Value) : Effect.Written (.mutate key delta reason)
  | goTo (site : Value) (instantly : Bool) : Effect.Written (.goTo site instantly)
  | trigger (event : String) : Effect.Written (.trigger event)
  | call (action : String) : Effect.Written (.call action)
  | offer {choices : List Choice} (each : ∀ choice ∈ choices, Choice.Written choice) :
      Effect.Written (.offer choices)
  | refresh (state options : Bool) : Effect.Written (.refresh state options)

inductive Choice.Written : Choice → Prop where
  | of (text : String) {action : Action} (written : Action.Written action) :
      Choice.Written ⟨.text text, action⟩

end

structure Event.Written (event : Event) : Prop where
  choices : ∀ choices, event.choices = some choices → ∀ choice ∈ choices, choice.Written
  action : ∀ action, event.action = some action → action.Written

structure Exit.Written (exit : Exit) : Prop where
  action : ∀ action, exit.action = some action → action.Written
  leads : exit.target.isNull = false ∨ exit.action.isSome = true
  far : 1 ≤ exit.distance

structure Script.Written (script : Script) : Prop where
  exits : ∀ site ∈ script.sites, ∀ exit ∈ site.exits, exit.Written
  siteEvents : ∀ site ∈ script.sites, ∀ event ∈ site.events, event.Written
  events : ∀ event ∈ script.events, event.Written

/-- What data stands for is written, as whatever the data is taken. -/
structure Value.GivesWritten (v : Value) : Prop where
  action : ∀ action, Action.From v action → action.Written
  effect : ∀ effect, Effect.From v effect → effect.Written
  offer : ∀ choices, Choice.OfferedFrom v choices → ∀ choice ∈ choices, choice.Written
  choice : ∀ choice, Choice.From v choice → choice.Written

section

variable {v : Value} (inside : ∀ member ∈ v.members, member.GivesWritten)
include inside

theorem Action.From.written {action : Action} (form : Action.From v action) : action.Written := by
  cases form with
  | named name => exact .named name
  | list each =>
    refine .scripted fun effect member => ?_
    obtain ⟨item, listed, form⟩ := exists_of_mem_right each member
    exact (inside item listed).effect effect form
  | idle _ => exact .scripted (by simp)
  | effects given listed =>
    exact (inside _ (Value.mem_members_of_get? none given)).action action listed

theorem Effect.From.written {effect : Effect} (form : Effect.From v effect) : effect.Written := by
  cases form with
  | text form => cases form <;> exact .text _ _
  | mutate form =>
    cases form
    exact .mutate _ _ _
  | goTo form => cases form <;> exact .goTo _ _
  | trigger event => exact .trigger event
  | call action => exact .call action
  | offer form => exact .offer ((inside _ Value.mem_members_single).offer _ form)
  | refresh form => cases form <;> exact .refresh _ _

theorem Choice.OfferedFrom.written {choices : List Choice} (form : Choice.OfferedFrom v choices) :
    ∀ choice ∈ choices, choice.Written := by
  cases form with
  | nothing _ => simp
  | list each =>
    intro choice member
    obtain ⟨item, listed, form⟩ := exists_of_mem_right each member
    exact (inside item listed).choice choice form

theorem Choice.From.written {choice : Choice} (form : Choice.From v choice) : choice.Written := by
  cases form with
  | of _ given acts =>
    exact .of _ ((inside _ (Value.mem_members_of_get? none given)).action _ acts)

end

theorem Value.givesWritten (v : Value) : v.GivesWritten := by
  induction v using Value.members_induction with
  | whole v inside =>
    exact ⟨fun _ form => form.written inside, fun _ form => form.written inside,
      fun _ form => form.written inside, fun _ form => form.written inside⟩

theorem Action.written_of_read {v : Value} {action : Action} (read : Action.read v = .ok action) :
    action.Written :=
  v.givesWritten.action action ((v.formed.action action).1 read)

theorem Choice.written_of_readAll {items : List Value} {choices : List Choice}
    (read : Choice.readAll items = .ok choices) : ∀ choice ∈ choices, choice.Written := by
  rw [Choice.readAll_eq] at read
  intro choice member
  obtain ⟨item, _, read⟩ := exists_of_mem_mapM read member
  exact item.givesWritten.choice choice ((item.formed.choice choice).1 read)

namespace Event

theorem written_of_readAction? {v : Value} {action? : Option Action}
    (read : readAction? v = .ok action?) : ∀ action, action? = some action → action.Written := by
  rintro action rfl
  unfold readAction? at read
  split at read
  · cases read
  · obtain ⟨own, found, made⟩ := map_eq_ok read
    cases made
    exact Action.written_of_read found

theorem written_of_readChoices? {v : Value} {choices? : Option (List Choice)}
    (read : readChoices? v = .ok choices?) :
    ∀ choices, choices? = some choices → ∀ choice ∈ choices, choice.Written := by
  rintro choices rfl
  unfold readChoices? at read
  split at read
  · cases read
  · obtain ⟨items, _, read⟩ := bind_eq_ok read
    obtain ⟨own, all, made⟩ := bind_eq_ok read
    cases made
    exact Choice.written_of_readAll all

theorem From.written {name : String} {v : Value} {event : Event} (data : From name v event) :
    event.Written :=
  ⟨written_of_readChoices? data.choices, written_of_readAction? data.action⟩

end Event

theorem Exit.From.written {v : Value} {exit : Exit} (data : From v exit) : exit.Written :=
  ⟨Event.written_of_readAction? data.action, data.leads, data.far⟩

theorem Site.EventFrom.written {shared : List Event} (known : ∀ event ∈ shared, event.Written)
    {site : String} {position : Nat} {v : Value} {event : Event}
    (data : EventFrom shared site position v event) : event.Written := by
  cases data with
  | shared found => exact known event (List.mem_of_find?_eq_some found)
  | own _ data => exact data.written
  | placed _ data => exact data.written

theorem Script.written_of_read {v : Value} {script : Script} (read : Script.read v = .ok script) :
    script.Written := by
  obtain ⟨⟨_, _, events⟩, ⟨_, _, sites⟩, -, -, -⟩ := read_iff.1 read
  have known : ∀ event ∈ script.events, event.Written := by
    intro event member
    obtain ⟨_, _, _, _, data⟩ := exists_of_mem_right events member
    exact data.written
  refine ⟨fun site member exit listed => ?_, fun site member event listed => ?_, known⟩
  · obtain ⟨_, _, data⟩ := exists_of_mem_right sites member
    obtain ⟨_, _, exits⟩ := data.exits
    obtain ⟨_, _, own⟩ := exists_of_mem_right exits listed
    exact own.written
  · obtain ⟨_, _, data⟩ := exists_of_mem_right sites member
    obtain ⟨_, _, events⟩ := data.events
    obtain ⟨_, _, own⟩ := exists_of_mem_right events listed
    exact own.written known

end Gamebook
