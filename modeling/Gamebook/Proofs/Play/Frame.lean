import Gamebook.Proofs.Play.Law
import Gamebook.Proofs.Play.Panel
import Gamebook.Proofs.Session.Report

/-! Parts of the world that most of play leaves as they are.

Where neither lines nor offers, nor changes of the state and what is shown of it, touch a part of the
world, only draws and registrations are left to be looked at: `Framed.law` makes a law of what is known
of these.
-/

set_option autoImplicit false

namespace Gamebook.Play

variable {α : Type}

/-- A part of the world that no change of a session touches, draws aside. -/
structure Framed (p : World → α) : Prop where
  say (w : World) (text : Value) (types : List String) :
    p { w with game := w.game.say text types } = p w
  offer (w : World) (origin : Origin) (choices : List Choice) :
    p { w with game := w.game.offer origin choices } = p w
  showState (w : World) : p { w with game := w.game.showState } = p w
  moveTo (w : World) (site : String) : p { w with game := w.game.moveTo site } = p w
  pass (w : World) {days : Int} {g : Game} (passed : w.game.pass days = .ok g) :
    p { w with game := g } = p w
  mutate (w : World) {key delta reason : Value} {m : Mutation} {g : Game}
    (mutated : w.game.mutate key delta reason = .ok (m, g)) : p { w with game := g } = p w
  report (w : World) (m : Mutation) (line : Line) :
    p { w with game := (w.game.write line).record (.reported m line) } = p w
  caught (w : World) (fault : Fault) : p { w with game := w.game.record (.caught fault) } = p w

def Keeps (p : World → α) (w : World) (_ : Option Stop) (v : World) : Prop :=
  p v = p w

variable {p : World → α} {s : Setting}

namespace Keeps

theorem liftFault {β : Type} (x : Except Fault β) : Obeys (Keeps p) (liftFault x) := by
  cases x with
  | ok b => exact fun _ => rfl
  | error fault => exact fun _ => rfl

variable (framed : Framed p)
include framed

theorem composes : Composes (Keeps p) where
  still _ := rfl
  trans early late := late.trans early
  caught fault early := (framed.caught _ fault).trans early

theorem offer (origin : Origin) (choices : List Choice) : Obeys (Keeps p) (offer s origin choices) := by
  intro w
  unfold Heeds
  rw [outcome_offer]
  cases choices.mapM (fillChoice s w.game.state) with
  | error fault => rfl
  | ok filled => exact framed.offer w origin filled

theorem offerExits : Obeys (Keeps p) (offerExits s) := by
  intro w
  unfold Heeds
  rw [outcome_offerExits]
  cases s.script.findSite? w.game.state.site with
  | none => rfl
  | some site =>
    dsimp only
    cases menu s w.game.state site with
    | error fault => rfl
    | ok choices => exact framed.offer w _ choices

theorem refresh (state options : Bool) : Obeys (Keeps p) (refresh s state options) := by
  have shows : Obeys (Keeps p) (update (·.showState)) := framed.showState
  exact (composes framed).seq ((composes framed).onlyIf shows state) fun _ =>
    (composes framed).onlyIf (offerExits framed) options

theorem mutate (key delta reason : Value) : Obeys (Keeps p) (mutate s key delta reason) := by
  intro w
  unfold Heeds
  rw [outcome_mutate]
  cases changed : w.game.mutate key delta reason with
  | error fault => rfl
  | ok answer =>
    obtain ⟨m, g⟩ := answer
    dsimp only
    by_cases writable : m.isWritable = true
    · rw [if_pos writable]
      exact (framed.report { w with game := g } m _).trans (framed.mutate w changed)
    · rw [if_neg writable]
      exact framed.mutate w changed

theorem pay (cost : Cost) : Obeys (Keeps p) (pay s cost) := by
  have passes : Obeys (Keeps p) (attempt (·.pass cost.days)) := by
    intro w
    unfold Heeds
    rw [outcome_attempt]
    cases passed : w.game.pass cost.days with
    | error fault => rfl
    | ok g => exact framed.pass w passed
  exact (composes framed).seq ((composes framed).onlyIf passes _) fun _ =>
    (composes framed).onlyIf (mutate framed _ _ _) _

theorem payLeg (departure : String) (arrival : Site) : Obeys (Keeps p) (payLeg s departure arrival) :=
  (composes framed).seq (liftFault _) fun departure => pay framed (s.cost departure arrival)

end Keeps

/-- What holds wherever a framed part is left as it is makes a law with draws and registrations. -/
theorem Framed.law {R : World → Option Stop → World → Prop} (framed : Framed p) (comp : Composes R)
    (le : ∀ w stop v, Keeps p w stop v → R w stop v)
    (draw : ∀ site, s.script.findSite? site.id = some site → Obeys R (Play.draw site))
    (register : ∀ name routine, Obeys R (Play.register name routine)) : Law s R := by
  have rules : Rules s R :=
    { comp with
      stop := fun w stop => le w (some stop) w rfl
      say := fun text types w => le _ _ _ (framed.say w text types)
      offer := fun choices => (Keeps.offer framed .given choices).mono le
      mutate := fun key delta reason => (Keeps.mutate framed key delta reason).mono le
      refresh := fun state options => (Keeps.refresh framed state options).mono le
      draw, register }
  exact { rules with
    goTo := fun performed => rules.goTo performed
      (fun departure arrival => (Keeps.payLeg framed departure arrival).mono le)
      fun site _ w => le _ _ _ (framed.moveTo w site.id) }

end Gamebook.Play
