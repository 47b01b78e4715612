import Gamebook.Api.Call
import Gamebook.Game.Session

/-! The sessions of all clients, over one script.

Clients know sessions by their ids. What a call changes beside the session that it names is only the
registry, when a routine of the host registers in it. -/

set_option autoImplicit false

namespace Gamebook.Api

structure Session where
  setting : Setting
  game : Game

def Session.run (session : Session) (registry : Registry Routine) (command : Command) :
    Except Stop Play.Reply × Registry Routine × Session :=
  let (reply, world) := Play.outcome (Play.step session.setting command) ⟨registry, session.game⟩
  (reply, world.registry, { session with game := world.game })

/-- What a session gets when it is begun: an id of its own, and draws for where no seed is
configured. -/
structure Fresh where
  id : String
  chance : Dice

structure Service where
  source : Source
  config : Config
  registry : Registry Routine
  /-- The live sessions by id, oldest first. -/
  sessions : List (String × Session) := []

inductive Answer where
  | screen (id : String) (snapshot : Snapshot)
  | finished (id : String)

namespace Service

def start (source : Source) (config : Config) : Except Fault Service := do
  discard source.script.entrySite
  return { source, config, registry := source.registry }

def find? (s : Service) (id : String) : Option Session :=
  s.sessions.lookup id

def setSession (s : Service) (id : String) (session : Session) : Service :=
  { s with
    sessions := s.sessions.map fun (other, kept) => (other, if other = id then session else kept) }

def remove (s : Service) (id : String) : Service :=
  { s with sessions := s.sessions.filter fun (other, _) => other != id }

/-- Begins a session under a fresh id. It is kept only if it gets under way. -/
def create (s : Service) (fresh : Fresh) : Except Problem Answer × Service :=
  match Setting.of s.source s.config none with
  | .error f => (.error (.fault f), s)
  | .ok setting =>
    let (reply, registry, session) :=
      Session.run ⟨setting, setting.newGame (setting.dice fresh.chance)⟩ s.registry .start
    let s := { s with registry }
    match reply with
    | .error stop => (.error (.ofStop stop), s)
    | .ok _ =>
      (.ok (.screen fresh.id (session.game.screen.snapshot 0)),
        { s with sessions := s.sessions ++ [(fresh.id, session)] })

/-- Chooses an option of a session, and shows what the log has gained. A choice that stops halfway
leaves what was done before. -/
def choose (s : Service) (id : String) (index : Int) (session : Session) :
    Except Problem Answer × Service :=
  let game := session.game
  if 0 ≤ index ∧ index < game.panel.length then
    let (reply, registry, session) := session.run s.registry (.choose index)
    let s := { s with registry }.setSession id session
    match reply with
    | .error stop => (.error (.ofStop stop), s)
    | .ok _ => (.ok (.screen id (session.game.screen.snapshot game.screen.log.length)), s)
  else (.error (.noOption index), s)

def within (s : Service) (id : String) (f : Session → Except Problem Answer × Service) :
    Except Problem Answer × Service :=
  match s.find? id with
  | some session => f session
  | none => (.error (.unknownSession id), s)

def perform (s : Service) (fresh : Fresh) : Call → Except Problem Answer × Service
  | .create => s.create fresh
  | .view id since =>
    s.within id fun session => (.ok (.screen id (session.game.screen.snapshot since)), s)
  | .choose id index => s.within id (s.choose id index)
  | .finish id => s.within id fun _ => (.ok (.finished id), s.remove id)

def answer (intake : Intake) (s : Service) (fresh : Fresh) (r : Request) :
    Except Problem Answer × Service :=
  match intake r with
  | .ok call => s.perform fresh call
  | .error problem => (.error problem, s)

end Service

end Gamebook.Api
