import Gamebook.Config
import Gamebook.Draw
import Gamebook.Game.Screen
import Gamebook.Script.Basic

/-! A session: the live state, the panel of options, the screen and the source of draws.

Every change goes through the operations of this module, and each of them adds to the history of
the session what it did. -/

set_option autoImplicit false

namespace Gamebook

inductive Origin where
  | given
  | exits (site : String)
  deriving DecidableEq, Repr

inductive Happening where
  | moved (site : String)
  | passed (days : Int)
  | mutated (mutation : Mutation)
  | reported (mutation : Mutation) (line : Line)
  | said (line : Line)
  | offered (origin : Origin) (choices : List Choice)
  | shown (state : State)
  /-- The event of an arrival is about to be selected. -/
  | arrived (site : String)
  /-- A routine goes on in spite of a fault. -/
  | caught (fault : Fault)

structure Game where
  state : State
  panel : List Choice := []
  /-- How often the panel has been replaced. -/
  revision : Nat := 0
  screen : Screen := {}
  dice : Dice
  /-- What has happened, oldest first. -/
  history : List Happening := []

namespace Game

def record (g : Game) (h : Happening) : Game :=
  { g with history := g.history ++ [h] }

def write (g : Game) (line : Line) : Game :=
  { g with screen := { g.screen with log := g.screen.log ++ [line] } }

def say (g : Game) (text : Value) (types : List String) : Game :=
  (g.write (.of text types)).record (.said (.of text types))

def offer (g : Game) (origin : Origin) (choices : List Choice) : Game :=
  { g with
    panel := choices
    revision := g.revision + 1
    screen := { g.screen with options := choices } }.record (.offered origin choices)

def showState (g : Game) : Game :=
  { g with screen := { g.screen with state := some g.state } }.record (.shown g.state)

def moveTo (g : Game) (site : String) : Game :=
  { g with state := g.state.setSite site }.record (.moved site)

def pass (g : Game) (days : Int) : Except Fault Game := do
  let state ← g.state.advance days
  return { g with state }.record (.passed days)

/-- A whole number with its sign, refused when it cannot be written. -/
def signed (n : Int) : Except Fault String := do
  let text ← (Value.int n).toText
  return if n < 0 then text else "+" ++ text

def reportText (labels : Labels) (m : Mutation) : Except Fault String := do
  let change := labels.get m.counter ++ " " ++ (← signed m.delta)
  if m.reason.isTruthy then return (← m.reason.toText) ++ ": " ++ change
  return change

def reportTypes (m : Mutation) : List String :=
  let kinds : List LineType :=
    if 0 < m.delta then [.good] else if m.delta < 0 then [.bad] else []
  (LineType.valueMutation :: kinds).map LineType.name

def mutate (g : Game) (key delta reason : Value) : Except Fault (Mutation × Game) := do
  let (mutation, state) ← g.state.mutate key delta reason
  return (mutation, { g with state }.record (.mutated mutation))

def report (g : Game) (labels : Labels) (m : Mutation) : Except Fault Game := do
  let line := Line.of (.text (← reportText labels m)) (reportTypes m)
  return (g.write line).record (.reported m line)

def select (g : Game) (site : Site) : Except Fault (Option Event × Game) := do
  let (event, dice) ← Event.select site.events g.dice
  return (event, { g with dice })

end Game

end Gamebook
