import Gamebook.Proofs.Session.Run
import Gamebook.Proofs.Session.Settled

/-! Which options are on the panel.

As long as no step fails, the panel is not older than the site: where the exits were offered last,
they are the menu of the site where the protagonist stands. A routine that catches the fault of a way
can leave the protagonist elsewhere, and this is all that can.
-/

set_option autoImplicit false

namespace Gamebook

open Play

namespace Setting

variable (s : Setting)

/-- A ford, and a mill where nobody opens. -/
def emptyMill : Setting where
  script := {
    sites := [
      { id := "ford", name := "Ford", exits := [{ target := "mill" }] },
      { id := "mill", name := "Mill", events := [{ id := "door", action := some (.named "open") }] }]
    events := []
    entry := { site := "ford" } }
  cost := .flat 1 10

-- A routine that makes nothing of a failed way leaves the exits of the ford on the panel at the mill.
example :
    let w := emptyMill.newWorld .empty (.ofList [])
    let carefree := Routine.attempt (.goTo "mill" true) fun _ => .done
    let operations : List Operation := [{ command := .start }, { command := .perform (.direct carefree) }]
    let game := (emptyMill.after w operations).game
    emptyMill.goesWell w operations = true ∧ game.state.site = "mill" ∧
      (game.history.filterMap Happening.offer?).getLast?.map Prod.fst = some (.exits "ford") := by
  decide +kernel

end Setting

end Gamebook
