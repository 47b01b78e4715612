import Gamebook.Proofs.Play.Outcome

/-! Laws of play.

What runs have in common follows from what a few operations do. `Rules` lists these operations but
for going to a site, which `Law` adds. `Law.within` carries a relation from them to every command, at
every depth to which actions dispatch actions.
-/

set_option autoImplicit false

namespace Gamebook.Play

/-- A relation that composes and that the operations keep to which dispatch no action. -/
structure Rules (s : Setting) (R : World → Option Stop → World → Prop) : Prop
    extends Composes R where
  stop (w : World) (stop : Stop) : R w (some stop) w
  say (text : Value) (types : List String) : Obeys R (Play.say text types)
  offer (choices : List Choice) : Obeys R (Play.offer s .given choices)
  mutate (key delta reason : Value) : Obeys R (Play.mutate s key delta reason)
  refresh (state options : Bool) : Obeys R (Play.refresh s state options)
  draw (site : Site) (listed : s.script.findSite? site.id = some site) : Obeys R (Play.draw site)
  register (name : String) (routine : Routine) : Obeys R (Play.register name routine)

/-- Going to a site keeps to the relation too, if the actions dispatched on the way do. -/
structure Law (s : Setting) (R : World → Option Stop → World → Prop) : Prop extends Rules s R where
  goTo {perform : Action → Play Unit} (performed : ∀ action, Obeys R (perform action))
    (id : Value) (instantly : Bool) : Obeys R (Play.goTo s perform id instantly)

variable {s : Setting} {R Q : World → Option Stop → World → Prop}

theorem Rules.weaken (rules : Rules s R) (comp : Composes Q)
    (le : ∀ w stop v, R w stop v → Q w stop v) : Rules s Q :=
  { comp with
    stop := fun w stop => le _ _ _ (rules.stop w stop)
    say := fun text types => (rules.say text types).mono le
    offer := fun choices => (rules.offer choices).mono le
    mutate := fun key delta reason => (rules.mutate key delta reason).mono le
    refresh := fun state options => (rules.refresh state options).mono le
    draw := fun site listed => (rules.draw site listed).mono le
    register := fun name routine => (rules.register name routine).mono le }

namespace Rules

variable (law : Rules s R)
include law

theorem throw {α : Type} (stop : Stop) : Obeys R (throw stop : Play α) :=
  fun w => law.stop w stop

theorem liftFault {α : Type} (x : Except Fault α) : Obeys R (liftFault x) := by
  cases x with
  | ok a => exact law.pure a
  | error fault => exact law.throw _

theorem fill (raw : Value) : Obeys R (fill s raw) := by
  intro w
  apply heeds_game_bind
  exact law.liftFault _ w

theorem narrate (raw : Value) (types : List String) : Obeys R (narrate s raw types) := by
  apply law.seq (law.fill raw)
  intro text
  exact law.say text types

variable {perform : Action → Play Unit} (performed : ∀ action, Obeys R (perform action))
include performed

theorem trigger (event : Event) : Obeys R (trigger s perform event) := by
  unfold Play.trigger
  split
  · apply law.seq (law.onlyIf (law.narrate _ _) _)
    intro _
    split
    · exact law.offer _
    · exact law.pure ()
  · split
    · exact performed _
    · exact law.pure ()

theorem fire (event? : Option Event) : Obeys R (fire s perform event?) := by
  cases event? with
  | none => exact law.pure ()
  | some event => exact law.trigger performed event

theorem arrive (site : Site) (listed : s.script.findSite? site.id = some site) :
    Obeys R (arrive s perform site) := by
  apply law.seq (law.draw site listed)
  intro event?
  exact law.reply (law.fire performed event?) event?

theorem triggerId (id : Value) : Obeys R (triggerId s perform id) := by
  apply law.seq (law.liftFault _)
  intro event
  exact law.trigger performed event

theorem goTo (pays : ∀ departure arrival, Obeys R (payLeg s departure arrival))
    (moves : ∀ site, s.script.findSite? site.id = some site →
      Obeys R (update (·.moveTo site.id)))
    (id : Value) (instantly : Bool) : Obeys R (goTo s perform id instantly) := by
  intro w
  apply law.bind (law.liftFault _ w)
  intro arrival v looked
  have listed := findSite?_of_outcome looked
  have arrives := law.map (law.arrive performed arrival listed) fun _ => ()
  -- the departure is read before the way is paid for, and the revision after the move
  apply heeds_game_bind
  refine law.seq (law.onlyIf (pays _ arrival) _) (fun _ => ?_) v
  apply law.seq (moves arrival listed)
  intro _ u
  apply heeds_game_bind
  refine law.seq (law.onlyIf arrives _) (fun _ x => ?_) u
  apply heeds_game_bind
  exact law.refresh _ _ x

end Rules

namespace Law

variable (law : Law s R) {perform : Action → Play Unit}
  (performed : ∀ action, Obeys R (perform action))
include law performed

theorem start : Obeys R (start s perform) := by
  apply law.seq (law.onlyIf (law.narrate _ _) _)
  intro _
  exact law.goTo performed _ _

theorem choose (index : Int) : Obeys R (choose perform index) := by
  intro w
  apply heeds_game_bind
  dsimp only
  split
  · exact performed _ w
  · exact law.throw _ w

theorem applyEffect (effect : Effect) : Obeys R (applyEffect s perform effect) := by
  cases effect with
  | text raw types => exact law.narrate raw types
  | mutate key delta reason => exact law.mutate key (.int delta) reason
  | goTo site instantly => exact law.goTo performed site instantly
  | trigger event => exact law.triggerId performed (.text event)
  | call action => exact performed (.named action)
  | offer choices => exact law.offer choices
  | refresh state options => exact law.refresh state options

theorem applyEffects (effects : List Effect) : Obeys R (applyEffects s perform effects) := by
  induction effects with
  | nil => exact law.pure ()
  | cons effect rest ih =>
    apply law.seq (law.applyEffect performed effect)
    intro _
    exact ih

theorem run (command : Command) : Obeys R (run s perform command) := by
  cases command with
  | start => exact law.reply (law.start performed) _
  | choose index => exact law.reply (law.choose performed index) _
  | fill raw => exact law.seq (law.fill raw) fun text => law.pure _
  | say text types => exact law.reply (law.say text types) _
  | narrate raw types => exact law.reply (law.narrate raw types) _
  | offer choices => exact law.reply (law.offer choices) _
  | offerData items =>
    apply law.seq (law.liftFault _)
    intro choices
    exact law.reply (law.offer choices) _
  | offerActions items =>
    apply law.seq (law.liftFault _)
    intro choices
    exact law.reply (law.offer choices) _
  | mutate key delta reason => exact law.reply (law.mutate key delta reason) _
  | goTo site instantly => exact law.reply (law.goTo performed site instantly) _
  | trigger event => exact law.reply (law.triggerId performed event) _
  | triggerData data =>
    apply law.seq (law.liftFault _)
    intro event
    exact law.reply (law.trigger performed event) _
  | arrive site =>
    intro w
    apply law.bind (law.liftFault _ w)
    intro site v looked
    exact law.seq (law.arrive performed site (findSite?_of_outcome looked)) (fun event? => law.pure _) v
  | refresh state options => exact law.reply (law.refresh state options) _
  | perform action => exact law.reply (performed action) _
  | dispatch data =>
    apply law.seq (law.liftFault _)
    intro action
    exact law.reply (performed action) _
  | get key =>
    intro w
    apply heeds_game_bind
    exact law.seq (law.liftFault _) (fun n => law.pure _) w
  | snapshot since =>
    intro w
    apply heeds_game_bind
    exact law.pure _ w
  | register name routine => exact law.reply (law.register name routine) _
  | fail fault => exact law.throw _

theorem follow (routine : Routine) : Obeys R (follow s perform routine) := by
  match routine with
  | .done => exact law.pure ()
  | .act command next =>
    -- whatever the command answers, the routine goes on from what it has left
    apply law.seq (law.run performed command)
    intro reply
    exact follow (next reply)
  | .attempt command next =>
    apply law.seq (law.catching (law.run performed command))
    intro reply?
    exact follow (next reply?)
  | .look next =>
    intro w
    apply heeds_game_bind
    exact follow (next w.game.state) w

omit performed in
theorem known (name : String) : Obeys R (known s name) := by
  intro w
  unfold Heeds
  rw [outcome_known]
  cases if s.knowsRegistry then w.registry.get? name else none with
  | none => exact law.stop w _
  | some routine => exact law.still w

omit performed in
theorem dispatch (depth : Nat) (action : Action) : Obeys R (dispatch s depth action) := by
  induction depth generalizing action with
  | zero => exact law.throw .tooDeep
  | succ depth ih =>
    -- what this action dispatches runs one level deeper, where the relation is kept already
    cases action with
    | named name =>
      apply law.seq (law.known name)
      intro routine
      exact law.follow ih routine
    | scripted effects => exact law.applyEffects ih effects
    | direct routine => exact law.follow ih routine

omit performed in
theorem within (depth : Nat) (command : Command) : Obeys R (within s depth command) :=
  law.run (law.dispatch depth) command

end Law

end Gamebook.Play
