import Gamebook.Number.Binary

/-! Script data as it is read from a file, before anything is checked.

Authors leave most fields untyped, so a field may hold any of these shapes until an operation asks
for one of them. Mappings keep the order in which they were written.

A file can describe a list or mapping that holds itself. Its value holds it to a depth that no
operation exhausts, and its copies carry one mark, by which they are known. -/

set_option autoImplicit false

namespace Gamebook

inductive Value where
  | null
  | bool (b : Bool)
  | int (n : Int)
  | float (x : Float)
  | text (s : String)
  | list {mark : Option Nat} (items : List Value)
  | mapping {mark : Option Nat} (entries : List (Value × Value))
  deriving Inhabited

/-- The entries of a mapping, in the order written. -/
abbrev Entries := List (Value × Value)

namespace Value

instance : Coe String Value := ⟨.text⟩

def ofList (items : List Value) : Value := @list none items

def ofEntries (entries : Entries) : Value := @mapping none entries

/-- What counts as given: not null, `false`, zero, or empty. -/
def isTruthy : Value → Bool
  | .null => false
  | .bool b => b
  | .int n => n != 0
  | .float x => x != 0
  | .text s => !s.isEmpty
  | .list items => !items.isEmpty
  | .mapping entries => !entries.isEmpty

def isNull : Value → Bool
  | .null => true
  | _ => false

def isText (v : Value) (s : String) : Bool :=
  match v with
  | .text t => t == s
  | _ => false

/-- The number a value stands for in comparisons; the truth values count as one and zero. -/
inductive Magnitude where
  | whole (n : Int)
  | real (x : Float)

def magnitude? : Value → Option Magnitude
  | .bool b => some (.whole (if b then 1 else 0))
  | .int n => some (.whole n)
  | .float x => some (.real x)
  | _ => none

-- Numbers are compared exactly, without rounding the integer.
def Magnitude.same : Magnitude → Magnitude → Bool
  | .whole m, .whole n => m == n
  | .real x, .real y => x == y
  | .whole n, .real x | .real x, .whole n => (Binary.ofFloat? x).bind Binary.toInt? == some n

-- Whether two values are both the float that is no number. It equals nothing; inside collections,
-- and as a key, it is still one and the same.
def bothNaN : Value → Value → Bool
  | .float x, .float y => x.isNaN && y.isNaN
  | _, _ => false

mutual

/-- Equality of script data: numbers by magnitude, mappings whatever their order. -/
def same : Value → Value → Bool
  | .null, .null => true
  | .text s, .text t => s == t
  | .list xs, .list ys => sameItems xs ys
  | .mapping xs, .mapping ys => xs.length == ys.length && sameEntries xs ys
  | .bool b, w => match (Value.bool b).magnitude?, w.magnitude? with
    | some m, some n => m.same n
    | _, _ => false
  | .int n, w => match (Value.int n).magnitude?, w.magnitude? with
    | some m, some n => m.same n
    | _, _ => false
  | .float x, w => match (Value.float x).magnitude?, w.magnitude? with
    | some m, some n => m.same n
    | _, _ => false
  | _, _ => false
  termination_by structural v => v

def sameItems : List Value → List Value → Bool
  | [], [] => true
  | x :: xs, y :: ys => (x.same y || bothNaN x y) && sameItems xs ys
  | _, _ => false
  termination_by structural vs => vs

def sameEntries : Entries → Entries → Bool
  | [], _ => true
  | (k, v) :: rest, ys =>
    (ys.any fun (l, w) => (k.same l || bothNaN k l) && (v.same w || bothNaN v w))
      && sameEntries rest ys
  termination_by structural es => es

end

def sameKey (k l : Value) : Bool :=
  k.same l || bothNaN k l

end Value

namespace Entries

def get? : Entries → String → Option Value
  | [], _ => none
  | (k, v) :: rest, name => if k.isText name then some v else get? rest name

def getD (entries : Entries) (name : String) (default : Value) : Value :=
  (get? entries name).getD default

def contains (entries : Entries) (name : String) : Bool :=
  (get? entries name).isSome

/-- Writes under a key: a later value replaces an earlier one and keeps its place and key. -/
def insert (key value : Value) : Entries → Entries
  | [] => [(key, value)]
  | (k, v) :: rest => if k.sameKey key then (k, value) :: rest else (k, v) :: insert key value rest

end Entries

end Gamebook
