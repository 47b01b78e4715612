import Gamebook.Registry

/-! Registries that go by names.

A registry lies at a place, and what is registered in it is written there. One that is made takes a place
of its own, to which its name leads from then on; the registry that went by this name before stays where
it lies. -/

set_option autoImplicit false

namespace Gamebook

structure Shelf (α : Type) where
  /-- The registries that have been made, each at its place. -/
  registries : List (Registry α) := []
  /-- Where the names lead, the newest first. -/
  places : List (String × Nat) := []

namespace Shelf

inductive Step (α : Type) where
  | new (target : String) (entries : List (String × α))
  | register (target name : String) (item : α)
  | decorate (target : String) (name : Option String) (ownName : String) (item : α)
  | merge (left : String) (right : Option String) (target : String)

variable {α : Type}

def place? (s : Shelf α) (name : String) : Option Nat :=
  s.places.lookup name

def get (s : Shelf α) (name : String) : Registry α :=
  ((s.place? name).bind (s.registries[·]?)).getD .empty

def put (s : Shelf α) (name : String) (r : Registry α) : Shelf α :=
  ⟨s.registries ++ [r], (name, s.registries.length) :: s.places⟩

/-- Changes the registry of a name where it lies. -/
def change (s : Shelf α) (name : String) (f : Registry α → Registry α) : Shelf α :=
  match s.place? name with
  | some place => { s with registries := s.registries.modify place f }
  | none => s.put name (f .empty)

def next (s : Shelf α) : Step α → Shelf α
  | .new target entries => s.put target (.ofList entries)
  | .register target name item => s.change target (·.register name item)
  | .decorate target name ownName item => s.change target (·.registerAs name ownName item)
  | .merge left right target => s.put target ((s.get left).merge (right.map s.get))

def after (s : Shelf α) (steps : List (Step α)) : Shelf α :=
  steps.foldl next s

def names (s : Shelf α) : List String :=
  (s.places.map Prod.fst).eraseDups

end Shelf

end Gamebook
