import Gamebook.Game.Play
import Gamebook.Game.Routines

/-! Sessions over a shared script: how they are set up, and how several run side by side. -/

set_option autoImplicit false

namespace Gamebook

structure Source where
  script : Script
  registry : Registry Routine
  /-- Whether later registrations in the registry become known to the script. -/
  knowsRegistry : Bool

namespace Source

-- A registry that holds nothing is not kept: what is registered in it later stays unknown.
def of (script : Script) (registry : Registry Routine) : Source :=
  ⟨script, registry, !registry.isEmpty⟩

def read (data : Value) (registry : Registry Routine) : Except Fault Source :=
  (Script.read data).map (of · registry)

def hostRegistry (builtin : Bool) (host : Registry Routine) : Registry Routine :=
  if builtin then Routine.builtin.merge (some host) else host

end Source

namespace Setting

/-- What the sessions of a source share. The entry must exist, and so must the travel policy unless
a cost is given in its place. -/
def of (source : Source) (config : Config) (cost : Option CostPolicy) : Except Fault Setting := do
  discard source.script.entrySite
  let cost ← match cost with
    | some cost => pure cost
    | none => CostPolicy.ofConfig config.travel
  return { script := source.script, config, cost, knowsRegistry := source.knowsRegistry }

/-- The draws of a session: those of the configured seed, else those that it is given by chance. -/
def dice (s : Setting) (chance : Dice) : Dice :=
  match s.config.seed with
  | some seed => .ofSeed seed
  | none => chance

def newGame (s : Setting) (dice : Dice) : Game where
  state := { site := s.script.entry.site, days := s.config.startingDay, status := s.config.status }
  dice := dice

end Setting

structure Hall where
  setting : Setting
  registry : Registry Routine
  games : List Game

namespace Hall

def step (hall : Hall) (index : Nat) (command : Command) : Option (Except Stop Play.Reply × Hall) :=
  hall.games[index]?.map fun game =>
    let (reply, world) := Play.outcome (Play.step hall.setting command) ⟨hall.registry, game⟩
    (reply, { hall with registry := world.registry, games := hall.games.set index world.game })

end Hall

end Gamebook
