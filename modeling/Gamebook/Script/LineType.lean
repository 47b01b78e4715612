import Gamebook.Fault

/-! The lines of a log, and their types.

A line may bear any names as its types. Those here are the ones that the game itself gives. -/

set_option autoImplicit false

namespace Gamebook

inductive LineType where
  | normal
  | event
  | good
  | bad
  | valueMutation
  deriving DecidableEq, Repr

namespace LineType

def all : List LineType := [.normal, .event, .good, .bad, .valueMutation]

def name : LineType → String
  | .normal => "normal"
  | .event => "event"
  | .good => "good"
  | .bad => "bad"
  | .valueMutation => "value-mutation"

def ofName? (name : String) : Option LineType :=
  all.find? (·.name == name)

theorem ofName?_name (t : LineType) : ofName? t.name = some t := by
  cases t <;> decide

def read (name : String) : Except Fault LineType :=
  match ofName? name with
  | some t => .ok t
  | none => .error (.unknownLineType name)

end LineType

/-- A line of the log. Its types tell a client how to render it; unknown ones pass through. -/
structure Line where
  text : Value
  types : List String

/-- A line of the given types, a normal one when there are none. -/
def Line.of (text : Value) (types : List String) : Line :=
  ⟨text, if types.isEmpty then [LineType.normal.name] else types⟩

end Gamebook
