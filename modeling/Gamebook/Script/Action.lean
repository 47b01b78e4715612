import Gamebook.Script.LineType
import Gamebook.Status

/-! What a script, or its host, can make happen.

A script names actions or lists effects. A host supplies routines: programs over the game that
issue commands, and go on as they like with what these answer and with the state. A routine may
catch the fault of a command; one that it does not catch stops the routine. -/

set_option autoImplicit false

namespace Gamebook

structure Snapshot where
  state : Option State
  options : List Value
  log : List Line
  cursor : Nat

inductive Reply where
  | nothing
  | value (v : Value)
  | snapshot (s : Snapshot)

mutual

inductive Action where
  | named (name : String)
  | scripted (effects : List Effect)
  | direct (routine : Routine)

/-- One step of a scripted action. Fields that are only checked when the step runs stay as data. -/
inductive Effect where
  | text (text : Value) (types : List String)
  | mutate (key : Value) (delta : Int) (reason : Value)
  | goTo (site : Value) (instantly : Bool)
  | trigger (event : String)
  | call (action : String)
  | offer (choices : List Choice)
  | refresh (state options : Bool)

structure Choice where
  text : Value
  action : Action

inductive Command where
  | start
  | choose (index : Int)
  | fill (raw : Value)
  | say (text : Value) (types : List String)
  | narrate (raw : Value) (types : List String)
  | offer (choices : List Choice)
  | offerData (items : List Value)
  /-- Offers options of which only the actions are read. -/
  | offerActions (items : List (Value × Value))
  | mutate (key delta reason : Value)
  | goTo (site : Value) (instantly : Bool)
  | trigger (event : Value)
  | triggerData (data : Value)
  | arrive (site : Value)
  | refresh (state options : Bool)
  | perform (action : Action)
  | dispatch (data : Value)
  | get (key : Value)
  | snapshot (since : Int)
  | register (name : String) (routine : Routine)
  | fail (fault : Fault)

inductive Routine where
  | done
  | act (command : Command) (next : Reply → Routine)
  /-- Goes on even if the command stops with a fault. -/
  | attempt (command : Command) (next : Except Fault Reply → Routine)
  | look (next : State → Routine)

end

instance : Inhabited Action := ⟨.scripted []⟩
instance : Inhabited Choice := ⟨⟨.null, default⟩⟩
instance : Inhabited Routine := ⟨.done⟩
instance : Inhabited Command := ⟨.start⟩

namespace Routine

def ofList : List Command → Routine
  | [] => .done
  | command :: rest => .act command fun _ => ofList rest

end Routine

end Gamebook
