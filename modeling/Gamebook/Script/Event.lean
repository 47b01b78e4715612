import Gamebook.Script.Grammar

/-! Events: a weighted text with options, or an action. -/

set_option autoImplicit false

namespace Gamebook

structure Event where
  id : String
  weight : Float := 0
  /-- Null when the event says nothing. -/
  text : Value := .null
  choices : Option (List Choice) := none
  action : Option Action := none

instance : Inhabited Event := ⟨{ id := "" }⟩

namespace Event

-- A narrative event says or offers something; its action, if any, is not dispatched.
def isNarrative (e : Event) : Bool :=
  !e.text.isNull || e.choices.isSome

/-- The weight of an event, zero when none is given. A truth value is no weight. -/
def readWeight (id : Value) (weight : Value) : Except Fault Float :=
  match weight with
  | .null => .ok 0
  | .bool _ => .error (.malformed (.eventWeight id weight))
  | _ =>
    match weight.toFloat with
    | .ok x => .ok x
    | .error .overflow => .error .overflow
    | .error _ => .error (.malformed (.eventWeight id weight))

def readAction? : Value → Except Fault (Option Action)
  | .null => .ok none
  | v => (Action.read v).map some

-- The options of an event. They may be left out; what is written must be something to run through.
def readChoices? : Value → Except Fault (Option (List Choice))
  | .null => .ok none
  | v => do return some (← Choice.readAll (← v.items))

def read (v : Value) : Except Fault Event :=
  match v with
  | .mapping entries => do
    let id := Entries.getD entries "id" .null
    if !id.isTruthy then throw (.malformed (.event v))
    let name ← id.toText
    let weight ← readWeight id (Entries.getD entries "weight" .null)
    let text := Entries.getD entries "text" .null
    let choices ← readChoices? (Entries.getD entries "options" .null)
    let action ← readAction? (Entries.getD entries "action" .null)
    return { id := name, weight, text, choices, action }
  | _ => .error (.malformed (.event v))

def find? (events : List Event) (id : String) : Option Event :=
  events.find? (·.id == id)

end Event

end Gamebook
