import Gamebook.Script.Event

/-! Sites and the exits that lead out of them. -/

set_option autoImplicit false

namespace Gamebook

structure Exit where
  /-- Where the exit leads; null for an exit that only acts. -/
  target : Value := .null
  name : Value := .null
  action : Option Action := none
  /-- Counts only under a travel policy that charges by distance. -/
  distance : Int := 1

def Exit.check (p : Exit) : Except Fault Exit :=
  if p.target.isNull && p.action.isNone then .error (.malformed .exitWithoutTarget)
  else if p.distance < 1 then .error (.malformed (.exitDistance p.distance))
  else .ok p

def Exit.read (v : Value) : Except Fault Exit := do
  let entries ← v.entries
  let target := entries.getD "target" .null
  let name := entries.getD "name" .null
  let action ← Event.readAction? (entries.getD "action" .null)
  let distance ← (entries.getD "distance" (.int 1)).toInt
  Exit.check { target, name, action, distance }

structure Site where
  id : String
  name : String
  exits : List Exit := []
  events : List Event := []

namespace Site

def exitTo? (site : Site) (target : Value) : Option Exit :=
  site.exits.find? (·.target.same target)

def eventId (site : String) (position : Nat) : String :=
  site ++ "_event_" ++ toString position

/-- An event of a site: the id of a shared event, or an event written in place. -/
def readEvent (shared : List Event) (site : String) (position : Nat) (v : Value) :
    Except Fault Event :=
  match v with
  | .text id =>
    match Event.find? shared id with
    | some event => .ok event
    | none => .error (.malformed (.unresolvedEvent site id))
  | .mapping entries =>
    if Entries.contains entries "id" then Event.read v
    else Event.read (.ofEntries (entries ++ [(.text "id", .text (eventId site position))]))
  | _ => Event.read v

def readEvents (shared : List Event) (site : String) : Nat → List Value → Except Fault (List Event)
  | _, [] => .ok []
  | position, v :: rest => do
    let event ← readEvent shared site position v
    let events ← readEvents shared site (position + 1) rest
    return event :: events

def read (shared : List Event) (v : Value) : Except Fault Site :=
  match v with
  | .mapping entries => do
    let id := Entries.getD entries "id" .null
    if !id.isTruthy then throw (.malformed (.site v))
    let site ← id.toText
    let events ← readEvents shared site 0
      (← ((Entries.getD entries "events" .null).orElse (.ofList [])).items)
    let name ← (Entries.getD entries "name" (.text site)).toText
    let exits ← (← ((Entries.getD entries "ports" .null).orElse (.ofList [])).items).mapM Exit.read
    return { id := site, name, exits, events }
  | _ => .error (.malformed (.site v))

end Site

end Gamebook
