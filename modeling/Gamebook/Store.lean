import Gamebook.Status

/-! A state with listeners, who hear every change of a counter in the order they subscribed. -/

set_option autoImplicit false

namespace Gamebook

structure Store (τ : Type) where
  state : State
  listeners : List τ := []

namespace Store

variable {τ : Type}

def subscribe (s : Store τ) (listener : τ) : Store τ :=
  { s with listeners := s.listeners ++ [listener] }

/-- Changes a counter and reports what each listener hears. -/
def mutate (s : Store τ) (key delta reason : Value) :
    Except Fault (List (τ × Mutation) × Store τ) := do
  let (mutation, state) ← s.state.mutate key delta reason
  return (s.listeners.map (·, mutation), { s with state })

def setSite (s : Store τ) (site : String) : Store τ :=
  { s with state := s.state.setSite site }

def advance (s : Store τ) (days : Int) : Except Fault (Store τ) :=
  (s.state.advance days).map fun state => { s with state }

end Store

end Gamebook
