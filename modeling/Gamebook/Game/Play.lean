import Gamebook.Game.Basic
import Gamebook.Registry
import Gamebook.Template
import Gamebook.Travel

/-! Playing: what actions, effects, commands and routines do to a session.

All of it runs in `Play`: a fault stops the run, unless a routine catches it, and leaves what was done
before it. Actions reach other actions only by way of `dispatch`, so its depth bounds every run. -/

set_option autoImplicit false

namespace Gamebook

/-- What sessions share and no session changes. -/
structure Setting where
  script : Script
  config : Config := {}
  cost : CostPolicy
  /-- Whether the names of the registry are known to the script. -/
  knowsRegistry : Bool := true

/-- A session, with the registry that it shares with others. -/
structure World where
  registry : Registry Routine
  game : Game

inductive Stop where
  | fault (f : Fault)
  /-- Actions have dispatched actions beyond all bounds. -/
  | tooDeep

abbrev Play := ExceptT Stop (StateM World)

namespace Play

/-- What a run answers, and the world it leaves. -/
def outcome {α : Type} (play : Play α) (world : World) : Except Stop α × World :=
  StateT.run (ExceptT.run play) world

def liftFault {α : Type} (x : Except Fault α) : Play α :=
  match x with
  | .ok a => pure a
  | .error f => throw (.fault f)

def game : Play Game :=
  return (← get).game

def update (f : Game → Game) : Play Unit :=
  modify fun world => { world with game := f world.game }

/-- Changes the session, or stops with the fault and leaves it unchanged. -/
def attempt (f : Game → Except Fault Game) : Play Unit := do
  let g ← liftFault (f (← game))
  update fun _ => g

/-- Answers the fault with which a run stops, as it is reported, and keeps what was done before it.
What runs on beyond all bounds stops all the same. -/
def catching {α : Type} (play : Play α) : Play (Except Fault α) :=
  tryCatch (return .ok (← play)) fun
    | .fault f => do
      update (·.record (.caught f.reported))
      return .error f.reported
    | .tooDeep => throw .tooDeep

def onlyIf (condition : Bool) (play : Play Unit) : Play Unit :=
  if condition then play else pure ()

abbrev Reply := Gamebook.Reply

section

variable (s : Setting)

def fill (raw : Value) : Play Value := do
  liftFault (Template.fill s.script s.config.text (← game).state raw)

def say (text : Value) (types : List String) : Play Unit :=
  update (·.say text types)

def narrate (raw : Value) (types : List String) : Play Unit := do
  say (← fill s raw) types

/-- Offers options, their texts filled. -/
def offer (origin : Origin) (choices : List Choice) : Play Unit := do
  let filled ← choices.mapM fun choice => return { choice with text := ← fill s choice.text }
  update (·.offer origin filled)

-- Changes a counter, then reports it: a change whose reason cannot be written stands without its
-- report.
def mutate (key delta reason : Value) : Play Unit := do
  let (mutation, g) ← liftFault ((← game).mutate key delta reason)
  update fun _ => g
  attempt (·.report s.config.text.labels mutation)

def travel (target : Value) : Routine :=
  .act (.goTo target false) fun _ => .done

/-- What an exit does: its action if it has one, else it goes to where it leads. -/
def exitAction (exit : Exit) : Action :=
  exit.action.getD (.direct (travel exit.target))

def exitChoice (exit : Exit) : Play Choice := do
  let label ← liftFault (Template.exitLabel s.script s.config.text exit)
  return ⟨label, exitAction exit⟩

def offerExits : Play Unit := do
  let site ← liftFault (s.script.site (.text (← game).state.site))
  offer s (.exits site.id) (← site.exits.mapM (exitChoice s))

def refresh (state options : Bool) : Play Unit := do
  onlyIf state (update (·.showState))
  onlyIf options (offerExits s)

def pay (cost : Cost) : Play Unit := do
  onlyIf (cost.days != 0) (attempt (·.pass cost.days))
  onlyIf (cost.money != 0)
    (mutate s (.text Counter.money.name) (.int (-cost.money)) (.text s.config.text.travelReason))

def payLeg (departure : String) (arrival : Site) : Play Unit := do
  let departure ← liftFault (s.script.site (.text departure))
  pay s (s.cost departure arrival)

def draw (site : Site) : Play (Option Event) := do
  update (·.record (.arrived site.id))
  let (event?, g) ← liftFault ((← game).select site)
  update fun _ => g
  return event?

def register (name : String) (routine : Routine) : Play Unit :=
  modify fun world => { world with registry := world.registry.register name routine }

variable (perform : Action → Play Unit)

/-- Fires an event: a narrative one says and offers, any other one dispatches its action. -/
def trigger (event : Event) : Play Unit := do
  if event.isNarrative then
    onlyIf (!event.text.isNull) (narrate s event.text [LineType.event.name])
    match event.choices with
    | some choices => offer s .given choices
    | none => pure ()
  else
    match event.action with
    | some action => perform action
    | none => pure ()

def fire (event? : Option Event) : Play Unit :=
  match event? with
  | some event => trigger s perform event
  | none => pure ()

def arrive (site : Site) : Play (Option Event) := do
  let event? ← draw site
  fire s perform event?
  return event?

/-- Goes to a site: pays for the way, unless it is gone instantly, arrives, and shows the exits
unless something else has been offered meanwhile. -/
def goTo (id : Value) (instantly : Bool) : Play Unit := do
  let arrival ← liftFault (s.script.site id)
  let departure := (← game).state.site
  onlyIf (!instantly) (payLeg s departure arrival)
  update (·.moveTo arrival.id)
  let revision := (← game).revision
  onlyIf (!(s.config.travel.suppressSelfArrival && departure == arrival.id))
    (discard (arrive s perform arrival))
  refresh s true ((← game).revision == revision)

def triggerId (id : Value) : Play Unit := do
  trigger s perform (← liftFault (s.script.event id))

def start : Play Unit := do
  let entry := s.script.entry
  onlyIf (!entry.story.isEmpty) (narrate s (.text entry.story) [LineType.normal.name])
  goTo s perform (.text entry.site) true

def choose (index : Int) : Play Unit := do
  let panel := (← game).panel
  match if 0 ≤ index then panel[index.toNat]? else none with
  | some choice => perform choice.action
  | none => throw (.fault (.noSuchOption index panel.length))

def applyEffect : Effect → Play Unit
  | .text raw types => narrate s raw types
  | .mutate key delta reason => mutate s key (.int delta) reason
  | .goTo site instantly => goTo s perform site instantly
  | .trigger event => triggerId s perform (.text event)
  | .call action => perform (.named action)
  | .offer choices => offer s .given choices
  | .refresh state options => refresh s state options

def applyEffects : List Effect → Play Unit
  | [] => pure ()
  | effect :: rest => do
    applyEffect s perform effect
    applyEffects rest

def run : Command → Play Reply
  | .start => do start s perform; return .nothing
  | .choose index => do choose perform index; return .nothing
  | .fill raw => return .value (← fill s raw)
  | .say text types => do say text types; return .nothing
  | .narrate raw types => do narrate s raw types; return .nothing
  | .offer choices => do offer s .given choices; return .nothing
  | .offerData items => do
    offer s .given (← liftFault (items.mapM Choice.read))
    return .nothing
  | .offerActions items => do
    offer s .given (← liftFault (items.mapM fun (text, action) => return ⟨text, ← Action.read action⟩))
    return .nothing
  | .mutate key delta reason => do mutate s key delta reason; return .nothing
  | .goTo site instantly => do goTo s perform site instantly; return .nothing
  | .trigger event => do triggerId s perform event; return .nothing
  | .triggerData data => do
    trigger s perform (← liftFault (Event.read data))
    return .nothing
  | .arrive site => do
    let event? ← arrive s perform (← liftFault (s.script.site site))
    return .value ((event?.map fun event => Value.text event.id).getD .null)
  | .refresh state options => do refresh s state options; return .nothing
  | .perform action => do perform action; return .nothing
  | .dispatch data => do
    perform (← liftFault (Action.read data))
    return .nothing
  | .get key => return .value (.int (← liftFault ((← game).state.get key)))
  | .snapshot since => return .snapshot ((← game).screen.snapshot since)
  | .register name routine => do register name routine; return .nothing
  | .fail fault => throw (.fault fault)

def follow : Routine → Play Unit
  | .done => pure ()
  | .act command next => do follow (next (← run s perform command))
  | .attempt command next => do follow (next (← catching (run s perform command)))
  | .look next => do follow (next (← game).state)

def known (name : String) : Play Routine := do
  let registry := (← get).registry
  match if s.knowsRegistry then registry.get? name else none with
  | some routine => return routine
  | none => throw (.fault (.unknownAction name))

end

/-- Runs an action; `depth` bounds how deeply actions may dispatch actions. -/
def dispatch (s : Setting) : Nat → Action → Play Unit
  | 0, _ => throw .tooDeep
  | depth + 1, .named name => do follow s (dispatch s depth) (← known s name)
  | depth + 1, .scripted effects => applyEffects s (dispatch s depth) effects
  | depth + 1, .direct routine => follow s (dispatch s depth) routine

-- How deeply actions may dispatch actions: far beyond what an author can mean.
def maxDepth : Nat := 1000

def within (s : Setting) (depth : Nat) (command : Command) : Play Reply :=
  run s (dispatch s depth) command

def step (s : Setting) (command : Command) : Play Reply :=
  within s maxDepth command

end Play

end Gamebook
