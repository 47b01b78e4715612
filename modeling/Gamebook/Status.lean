import Gamebook.Value.Shape

/-! The protagonist's counters and the live state of a session. -/

set_option autoImplicit false

namespace Gamebook

inductive Counter where
  | hp
  | money
  | honor
  deriving DecidableEq, Repr

namespace Counter

def all : List Counter := [.hp, .money, .honor]

def name : Counter → String
  | .hp => "hp"
  | .money => "money"
  | .honor => "honor"

def ofName? (name : String) : Option Counter :=
  all.find? (·.name == name)

theorem ofName?_name (c : Counter) : ofName? c.name = some c := by
  cases c <;> decide

def read (key : Value) : Except Fault Counter :=
  match key with
  | .text s => match ofName? s with
    | some c => .ok c
    | none => .error (.invalidKey key)
  | _ => .error (.invalidKey key)

end Counter

structure Status where
  hp : Int := 0
  money : Int := 0
  honor : Int := 0
  deriving DecidableEq, Repr

namespace Status

def get (s : Status) : Counter → Int
  | .hp => s.hp
  | .money => s.money
  | .honor => s.honor

def set (s : Status) (c : Counter) (n : Int) : Status :=
  match c with
  | .hp => { s with hp := n }
  | .money => { s with money := n }
  | .honor => { s with honor := n }

@[simp] theorem get_set (s : Status) (c d : Counter) (n : Int) :
    (s.set c n).get d = if c = d then n else s.get d := by
  cases c <;> cases d <;> rfl

def add (s : Status) (c : Counter) (delta : Int) : Status :=
  s.set c (s.get c + delta)

theorem get_add (s : Status) (c d : Counter) (delta : Int) :
    (s.add c delta).get d = s.get d + if c = d then delta else 0 := by
  rw [add, get_set]
  by_cases same : c = d
  · rw [if_pos same, if_pos same, same]
  · rw [if_neg same, if_neg same, Int.add_zero]

theorem eq_of_get {s t : Status} (same : ∀ c, s.get c = t.get c) : s = t := by
  have hp : s.hp = t.hp := same .hp
  have money : s.money = t.money := same .money
  have honor : s.honor = t.honor := same .honor
  cases s
  simp_all

end Status

/-- Where the protagonist is, for how long, and how well. -/
structure State where
  site : String
  days : Int := 0
  status : Status := {}
  deriving DecidableEq, Repr

/-- One accepted change of a counter; `value` is what the counter reads right after it. -/
structure Mutation where
  counter : Counter
  delta : Int
  value : Int
  reason : Value

namespace State

/-- The whole number that a delta is: an integer, or a real number with nothing after the point. -/
def readDelta (delta : Value) : Except Fault Int :=
  match delta with
  | .int n => .ok n
  | .float x =>
    match (Binary.ofFloat? x).bind Binary.toInt? with
    | some n => .ok n
    | none => .error (.fractionalDelta delta)
  | _ => .error (.fractionalDelta delta)

-- Adds a delta to a counter. There is no floor and no ceiling.
def mutate (s : State) (key delta reason : Value) : Except Fault (Mutation × State) := do
  let counter ← Counter.read key
  let delta ← readDelta delta
  let status := s.status.add counter delta
  return (⟨counter, delta, status.get counter, reason⟩, { s with status })

def setSite (s : State) (site : String) : State :=
  { s with site }

def advance (s : State) (days : Int) : Except Fault State :=
  if days < 0 then .error (.backwardDays days) else .ok { s with days := s.days + days }

def get (s : State) (key : Value) : Except Fault Int :=
  (Counter.read key).map s.status.get

def toEntries (s : State) : Entries :=
  ("site", .text s.site) :: ("days", .int s.days)
    :: Counter.all.map fun c => (.text c.name, .int (s.status.get c))

def literal (s : State) : String :=
  "StateView(" ++ (Value.ofEntries s.toEntries).literal ++ ")"

end State

end Gamebook
