import Gamebook.Script.Action

/-! What the player has been shown. -/

set_option autoImplicit false

namespace Gamebook

structure Screen where
  log : List Line := []
  options : List Choice := []
  state : Option State := none

/-- The log from a position on; a negative position means the beginning. -/
def Screen.snapshot (screen : Screen) (since : Int) : Snapshot where
  state := screen.state
  options := screen.options.map (·.text)
  log := screen.log.drop since.toNat
  cursor := screen.log.length

end Gamebook
