import Gamebook.Registry
import Gamebook.Script.Action

/-! The routines that every script may name. -/

set_option autoImplicit false

namespace Gamebook.Routine

def innPrice : Int := 5

def innHeal : Int := 10

/-- A bed and some health, if the purse allows it. -/
def rest : Routine :=
  .look fun state =>
    if state.status.money < innPrice then
      .ofList [.say "You cannot afford a bed tonight." [LineType.bad.name]]
    else
      .ofList [
        .mutate "money" (.int (-innPrice)) "inn",
        .mutate "hp" (.int innHeal) "rest",
        .refresh true false]

def endJourney : Routine :=
  .ofList [.narrate "Your journey ends. Honor: $honor." [LineType.normal.name], .offer []]

/-- Ends the journey without health or in debt; otherwise refreshes the screen. -/
def checkFate : Routine :=
  .look fun state =>
    if state.status.hp ≤ 0 then
      .act (.narrate "You collapse on the road after $days days." [LineType.bad.name]) fun _ => endJourney
    else if state.status.money < 0 then
      .act (.narrate "Debts catch up with you in $site." [LineType.bad.name]) fun _ => endJourney
    else .ofList [.refresh true true]

def stay : Routine :=
  .ofList [.refresh false true]

def builtin : Registry Routine :=
  .ofList [("rest", rest), ("check_fate", checkFate), ("end_journey", endJourney), ("stay", stay)]

end Gamebook.Routine
