import Gamebook.Config
import Gamebook.Script.Basic

/-! The cost of a leg from one site to another. -/

set_option autoImplicit false

namespace Gamebook

structure Cost where
  days : Int := 0
  money : Int := 0
  deriving DecidableEq, Repr

abbrev CostPolicy := Site → Site → Cost

namespace CostPolicy

def flat (days money : Int) : CostPolicy :=
  fun _ _ => ⟨days, money⟩

/-- A leg costs in proportion to the distance of the first exit that leads to the arrival, and as
one step where no exit leads there. -/
def distance (days moneyPerDay : Int) : CostPolicy :=
  fun departure arrival =>
    let steps := ((departure.exitTo? (.text arrival.id)).map (·.distance)).getD 1
    ⟨steps * days, steps * days * moneyPerDay⟩

def ofConfig (config : TravelConfig) : Except Fault CostPolicy :=
  if config.policy = "flat" then .ok (flat config.days config.money)
  else if config.policy = "distance" then .ok (distance config.days config.moneyPerDay)
  else .error (.unknownPolicy config.policy)

end CostPolicy

end Gamebook
