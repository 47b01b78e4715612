/-! Registries: what is known under a name.

A registry is the history of its writes, newest first, and a look-up finds the newest write. Two
registries merge by putting one history before the other, so neither is changed. -/

set_option autoImplicit false

namespace Gamebook

structure Registry (α : Type) where
  writes : List (String × α) := []

namespace Registry

variable {α : Type}

def empty : Registry α := {}

def register (r : Registry α) (name : String) (item : α) : Registry α :=
  ⟨(name, item) :: r.writes⟩

def ofList (entries : List (String × α)) : Registry α :=
  entries.foldl (fun r (name, item) => r.register name item) empty

/-- Registers under a name, or under the item's own name when none is given. -/
def registerAs (r : Registry α) (name : Option String) (ownName : String) (item : α) : Registry α :=
  match name with
  | none | some "" => r.register ownName item
  | some name => r.register name item

def get? (r : Registry α) (name : String) : Option α :=
  r.writes.lookup name

def contains (r : Registry α) (name : String) : Bool :=
  (r.get? name).isSome

def isEmpty (r : Registry α) : Bool :=
  r.writes.isEmpty

/-- Both registries in one; the entries of `other` win. -/
def merge (r : Registry α) (other : Option (Registry α)) : Registry α :=
  match other with
  | none => r
  | some other => ⟨other.writes ++ r.writes⟩

def names (r : Registry α) : List String :=
  (r.writes.map Prod.fst).eraseDups.mergeSort (· ≤ ·)

def size (r : Registry α) : Nat :=
  r.names.length

def toList (r : Registry α) : List (String × α) :=
  r.names.filterMap fun name => (r.get? name).map (name, ·)

@[simp] theorem get?_empty (name : String) : (empty : Registry α).get? name = none := rfl

theorem get?_register (r : Registry α) (name other : String) (item : α) :
    (r.register name item).get? other = if other = name then some item else r.get? other := by
  by_cases h : other = name
  · simp [get?, register, h]
  · have apart : (other == name) = false := by simpa using h
    simp [get?, register, List.lookup_cons, apart, h]

theorem get?_merge (r o : Registry α) (name : String) :
    (r.merge (some o)).get? name = (o.get? name).or (r.get? name) := by
  simp [get?, merge, List.lookup_append]

@[simp] theorem merge_none (r : Registry α) : r.merge none = r := rfl

end Registry

end Gamebook
