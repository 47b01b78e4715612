import Gamebook.Fault
import Gamebook.Text.Symbol

/-! Asking script data for a shape: a mapping, something to run through, a key, a number. -/

set_option autoImplicit false

namespace Gamebook.Value

def entries : Value → Except Fault Entries
  | .mapping entries => .ok entries
  | _ => .error .notMapping

def field? (v : Value) (name : String) : Except Fault (Option Value) :=
  v.entries.map fun entries => entries.get? name

def fieldD (v : Value) (name : String) (default : Value) : Except Fault Value :=
  v.entries.map fun entries => entries.getD name default

def orElse (v default : Value) : Value :=
  if v.isTruthy then v else default

/-- What a value runs through: the items of a list, the symbols of a text, the keys of a mapping. -/
def items : Value → Except Fault (List Value)
  | .list items => .ok items
  | .text s => .ok ((Text.symbols s).map fun symbol => .text (Text.ofSymbols [symbol]))
  | .mapping entries => .ok (entries.map Prod.fst)
  | _ => .error .notIterable

-- The text that a value is as the key of an index of names; every other value that can be a key
-- finds nothing.
def asName? : Value → Except Fault (Option String)
  | .text s => .ok (some s)
  | .list _ | .mapping _ => .error .notKey
  | _ => .ok none

def toText (v : Value) : Except Fault String :=
  if v.isWritable then .ok v.display else .error .badNumeral

@[simp] theorem toText_text (s : String) : (Value.text s).toText = .ok s := by
  simp [toText, isWritable, isWritableWithin, display]

/-- A whole number: a real number is truncated, a text is read. -/
def toInt : Value → Except Fault Int
  | .int n => .ok n
  | .bool b => .ok (if b then 1 else 0)
  | .float x =>
    match Binary.ofFloat? x with
    | some b => .ok b.truncate
    | none => .error (if x.isNaN then .badNumeral else .overflow)
  | .text s =>
    match Text.readInt? s with
    | some n => .ok n
    | none => .error .badNumeral
  | _ => .error .notNumber

def toFloat : Value → Except Fault Float
  | .float x => .ok x
  | .int n =>
    let x := Float.ofInt n
    if x.isFinite then .ok x else .error .overflow
  | .bool b => .ok (if b then 1 else 0)
  | .text s =>
    match Text.readFloat? s with
    | some x => .ok x
    | none => .error .badNumeral
  | _ => .error .notNumber

end Gamebook.Value
