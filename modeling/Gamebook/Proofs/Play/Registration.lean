import Gamebook.Proofs.Play.Frame
import Gamebook.Proofs.Session.Run

/-! What play does to the registry: nothing but to register in it.

Only `register` changes the registry, and it adds to its writes. So every run, however it ends, leaves
a registry that ends with the writes it found.
-/

set_option autoImplicit false

namespace Gamebook.Play

theorem framed_registry : Framed World.registry where
  say _ _ _ := rfl
  offer _ _ _ := rfl
  showState _ := rfl
  moveTo _ _ := rfl
  pass _ _ _ _ := rfl
  mutate _ _ _ _ _ _ _ := rfl
  report _ _ _ := rfl
  caught _ _ := rfl

/-- The writes of the registry are kept; newer ones stand before them. -/
def KeepsWrites (w : World) (_ : Option Stop) (v : World) : Prop :=
  w.registry.writes <:+ v.registry.writes

namespace KeepsWrites

theorem of_keeps (w : World) (stop : Option Stop) (v : World) (kept : Keeps World.registry w stop v) :
    KeepsWrites w stop v := by
  unfold Keeps at kept
  simp only [KeepsWrites, kept, List.suffix_rfl]

theorem composes : Composes KeepsWrites where
  still _ := List.suffix_rfl
  trans early late := early.trans late
  caught _ early := early

theorem draw (site : Site) : Obeys KeepsWrites (draw site) := by
  intro w
  apply of_keeps
  rw [outcome_draw]
  cases Event.select site.events w.game.dice with
  | error fault => rfl
  | ok answer => rfl

theorem register (name : String) (routine : Routine) : Obeys KeepsWrites (register name routine) :=
  fun w => List.suffix_cons (name, routine) w.registry.writes

theorem law (s : Setting) : Law s KeepsWrites :=
  framed_registry.law composes of_keeps (fun site _ => draw site) register

end KeepsWrites

end Gamebook.Play

namespace Gamebook.Setting

open Play

theorem writes_suffix (s : Setting) (w : World) (operations : List Operation) :
    w.registry.writes <:+ (s.after w operations).registry.writes := by
  induction operations generalizing w with
  | nil => exact List.suffix_rfl
  | cons o rest ih =>
    have first : KeepsWrites w _ (o.outcome s w).2 := (KeepsWrites.law s).within o.depth o.command w
    exact List.IsSuffix.trans first (ih _)

end Gamebook.Setting
