import Gamebook.Proofs.Play.Outcome

/-! Runs at different depths.

Depth does nothing but cut a run off. A run that is not cut off ends alike at every greater depth, so
an action ends in one way at most: `Ends` says which, and leaves the depth out.
-/

set_option autoImplicit false

namespace Gamebook.Play

variable {α β : Type}

/-- A play that ends as another one does, unless it is cut off. -/
def Approximates (play other : Play α) : Prop :=
  ∀ w, (outcome play w).1 ≠ .error .tooDeep → outcome other w = outcome play w

namespace Approximates

theorem refl (play : Play α) : Approximates play play :=
  fun _ _ => rfl

theorem trans {first second third : Play α} (one : Approximates first second)
    (two : Approximates second third) : Approximates first third := by
  intro w ended
  have same := one w ended
  rw [← same]
  apply two
  rw [same]
  exact ended

theorem tooDeep (play : Play α) : Approximates (throw .tooDeep) play :=
  fun _ ended => absurd rfl ended

theorem bind {play other : Play α} {next next' : α → Play β} (first : Approximates play other)
    (rest : ∀ a, Approximates (next a) (next' a)) :
    Approximates (play >>= next) (other >>= next') := by
  intro w ended
  have same := first w
  rw [outcome_bind] at ended
  rw [outcome_bind, outcome_bind]
  rcases run : outcome play w with ⟨answer, v⟩
  rw [run] at ended same
  cases answer with
  | error stop =>
    have uncut : stop ≠ .tooDeep := by
      rintro rfl
      exact ended rfl
    rw [same (by simpa using uncut)]
  | ok a =>
    rw [same (by simp)]
    exact rest a v ended

theorem after (play : Play α) {next next' : α → Play β} (rest : ∀ a, Approximates (next a) (next' a)) :
    Approximates (play >>= next) (play >>= next') :=
  (refl play).bind rest

theorem before {play other : Play α} (first : Approximates play other) (next : α → Play β) :
    Approximates (play >>= next) (other >>= next) :=
  first.bind fun a => refl (next a)

theorem discard {play other : Play α} (first : Approximates play other) :
    Approximates (discard play) (discard other) := by
  change Approximates ((fun _ => ()) <$> play) ((fun _ => ()) <$> other)
  rw [← bind_pure_comp, ← bind_pure_comp]
  exact first.before _

-- What is cut off is not caught, so whatever is caught is caught at every greater depth.
theorem catching {play other : Play α} (first : Approximates play other) :
    Approximates (catching play) (catching other) := by
  intro w ended
  have same := first w
  rw [outcome_catching] at ended
  rw [outcome_catching, outcome_catching]
  rcases run : outcome play w with ⟨answer, v⟩
  rw [run] at ended same
  have uncut : answer ≠ .error .tooDeep := by
    rintro rfl
    exact ended rfl
  rw [same uncut]

theorem onlyIf {play other : Play Unit} (first : Approximates play other) (condition : Bool) :
    Approximates (onlyIf condition play) (onlyIf condition other) := by
  cases condition with
  | false => exact refl _
  | true => exact first

end Approximates

/-- What performs actions as another does, unless it is cut off. -/
def Shallower (perform other : Action → Play Unit) : Prop :=
  ∀ action, Approximates (perform action) (other action)

namespace Shallower

open Approximates

variable {s : Setting} {perform other : Action → Play Unit} (shallower : Shallower perform other)
include shallower

theorem trigger (event : Event) : Approximates (trigger s perform event) (trigger s other event) := by
  unfold Play.trigger
  split
  · exact refl _
  · cases event.action with
    | some action => exact shallower action
    | none => exact refl _

theorem fire (event? : Option Event) : Approximates (fire s perform event?) (fire s other event?) := by
  cases event? with
  | none => exact refl _
  | some event => exact shallower.trigger event

theorem arrive (site : Site) : Approximates (arrive s perform site) (arrive s other site) :=
  after (draw site) fun event? => (shallower.fire event?).before _

theorem goTo (id : Value) (instantly : Bool) :
    Approximates (goTo s perform id instantly) (goTo s other id instantly) := by
  apply after
  intro arrival
  apply after
  intro here
  apply after
  intro _
  apply after
  intro _
  apply after
  intro moved
  -- only the event of the arrival is performed
  exact ((shallower.arrive arrival).discard.onlyIf _).before _

theorem triggerId (id : Value) : Approximates (triggerId s perform id) (triggerId s other id) :=
  after (liftFault (s.script.event id)) shallower.trigger

theorem start : Approximates (start s perform) (start s other) := by
  apply after
  intro _
  exact shallower.goTo _ _

theorem choose (index : Int) : Approximates (choose perform index) (choose other index) := by
  apply after
  intro game
  dsimp only
  cases if 0 ≤ index then game.panel[index.toNat]? else none with
  | some choice => exact shallower choice.action
  | none => exact refl _

theorem applyEffect (effect : Effect) :
    Approximates (applyEffect s perform effect) (applyEffect s other effect) := by
  cases effect with
  | goTo site instantly => exact shallower.goTo site instantly
  | trigger event => exact shallower.triggerId (.text event)
  | call action => exact shallower (.named action)
  | _ => exact refl _

theorem applyEffects (effects : List Effect) :
    Approximates (applyEffects s perform effects) (applyEffects s other effects) := by
  induction effects with
  | nil => exact refl _
  | cons effect rest ih => exact (shallower.applyEffect effect).bind fun _ => ih

theorem run (command : Command) : Approximates (run s perform command) (run s other command) := by
  cases command with
  | start => exact shallower.start.before _
  | choose index => exact (shallower.choose index).before _
  | goTo site instantly => exact (shallower.goTo site instantly).before _
  | trigger event => exact (shallower.triggerId event).before _
  | triggerData data => exact after _ fun event => (shallower.trigger event).before _
  | arrive site => exact after _ fun site => (shallower.arrive site).before _
  | perform action => exact (shallower action).before _
  | dispatch data => exact after _ fun action => (shallower action).before _
  | _ => exact refl _

theorem follow (routine : Routine) :
    Approximates (follow s perform routine) (follow s other routine) := by
  match routine with
  | .done => exact refl _
  | .act command next =>
    apply (shallower.run command).bind
    intro reply
    exact follow (next reply)
  | .attempt command next =>
    apply (shallower.run command).catching.bind
    intro reply?
    exact follow (next reply?)
  | .look next =>
    apply after
    intro game
    exact follow (next game.state)

omit shallower in
theorem dispatch_succ (s : Setting) (depth : Nat) :
    Shallower (dispatch s depth) (dispatch s (depth + 1)) := by
  induction depth with
  | zero =>
    intro action
    exact tooDeep _
  | succ depth ih =>
    intro action
    cases action with
    | named name => exact after (known s name) ih.follow
    | scripted effects => exact ih.applyEffects effects
    | direct routine => exact ih.follow routine

omit shallower in
theorem dispatch_add (s : Setting) (depth more : Nat) :
    Shallower (dispatch s depth) (dispatch s (depth + more)) := by
  induction more with
  | zero =>
    intro action
    exact refl _
  | succ more ih =>
    intro action
    exact (ih action).trans (dispatch_succ s (depth + more) action)

end Shallower

/-- The answer of a run that is not cut off. -/
def ending : Option Fault → Except Stop Unit
  | none => .ok ()
  | some fault => .error (.fault fault)

theorem ending_ne_tooDeep (fault? : Option Fault) : ending fault? ≠ .error .tooDeep := by
  cases fault? <;> simp [ending]

/-- How an action ends where nothing cuts it off, and the world that it leaves. -/
def Ends (s : Setting) (action : Action) (w : World) (fault? : Option Fault) (v : World) : Prop :=
  ∃ depth, outcome (dispatch s depth action) w = (ending fault?, v)

theorem Approximates.ends {play other : Play Unit} (first : Approximates play other) {w v : World}
    {fault? : Option Fault} (done : outcome play w = (ending fault?, v)) :
    outcome other w = (ending fault?, v) := by
  rw [first w (by rw [done]; exact ending_ne_tooDeep fault?), done]

/-- An action ends in one way at most. -/
theorem Ends.unique {s : Setting} {action : Action} {w v v' : World} {fault? fault?' : Option Fault}
    (one : Ends s action w fault? v) (other : Ends s action w fault?' v') :
    fault? = fault?' ∧ v = v' := by
  obtain ⟨depth, done⟩ := one
  obtain ⟨depth', done'⟩ := other
  have here := (Shallower.dispatch_add s depth depth' action).ends done
  have there := (Shallower.dispatch_add s depth' depth action).ends done'
  rw [Nat.add_comm, here] at there
  obtain ⟨answer, rfl⟩ := Prod.mk.inj there
  refine ⟨?_, rfl⟩
  cases fault? <;> cases fault?' <;> simp_all [ending]

end Gamebook.Play
