import Gamebook.Number.Twister
import Gamebook.Script.Event

/-! Weighted draws.

The events of positive weight compete in one draw: the unit interval is cut in proportion to their
weights, and the draw decides by where it falls. -/

set_option autoImplicit false

namespace Gamebook

inductive Dice where
  | seeded (generator : Twister)
  /-- Draws told in advance, which start over after the last. -/
  | told (all ahead : List Float)

namespace Dice

def ofSeed (seed : Int) : Dice := .seeded (.ofSeed seed)

def ofList (draws : List Float) : Dice := .told draws draws

def next : Dice → Float × Dice
  | .seeded generator => let (u, generator) := generator.nextUnit; (u, .seeded generator)
  | .told all (u :: ahead) => (u, .told all ahead)
  | .told (u :: rest) [] => (u, .told (u :: rest) rest)
  | .told [] [] => (0, .told [] [])

end Dice

namespace Draw

variable {α : Type}

def sumsFrom [Add α] (sum : α) : List α → List α
  | [] => []
  | w :: rest => (sum + w) :: sumsFrom (sum + w) rest

def runningSums [Add α] : List α → List α
  | [] => []
  | w :: rest => w :: sumsFrom w rest

/-- The first position whose running sum exceeds `x`, the last one if none before it does. -/
def position [LT α] [DecidableLT α] (sums : List α) (x : α) : Nat :=
  sums.dropLast.findIdx (x < ·)

/-- The position on which the draw `u` falls, `total` being the last running sum. -/
def pick [Add α] [Mul α] [LT α] [DecidableLT α] (weights : List α) (total u : α) : Nat :=
  position (runningSums weights) (u * total)

end Draw

namespace Event

def isWeighted (e : Event) : Bool := 0 < e.weight

/-- The event that fires on arrival. Without positive weights an event fires only if it is alone;
a single positive weight needs no draw. -/
def select (events : List Event) (dice : Dice) : Except Fault (Option Event × Dice) :=
  match events.filter isWeighted with
  | [] =>
    match events with
    | [event] => .ok (some event, dice)
    | _ => .ok (none, dice)
  | [event] => .ok (some event, dice)
  | weighted =>
    let weights := weighted.map (·.weight)
    match (Draw.runningSums weights).getLast? with
    | some total =>
      if total.isFinite then
        let (u, dice) := dice.next
        .ok (weighted[Draw.pick weights total u]?, dice)
      else .error .unboundedWeights
    | none => .ok (none, dice)

end Event

end Gamebook
