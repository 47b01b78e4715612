import Gamebook.Number.Shortest
import Gamebook.Text.Numeral
import Gamebook.Text.Quoted
import Gamebook.Value.Basic

/-! The text of script data: `literal` as messages quote it, `display` as players read it.

Neither can be given for a whole number beyond a bound; `isWritable` tells. -/

set_option autoImplicit false

namespace Gamebook.Value

mutual

/-- The value as it is quoted inside the collections that bear the marks `around`. Where one of
these comes round again, dots stand for it. -/
def literalWithin (around : List Nat) : Value → String
  | .null => "None"
  | .bool b => if b then "True" else "False"
  | .int n => toString n
  | .float x => ({} : Layout).float x
  | .text s => Text.quote s
  | @list mark items =>
    if mark.any around.contains then "[...]"
    else "[" ++ ", ".intercalate (literalItems (mark.toList ++ around) items) ++ "]"
  | @mapping mark entries =>
    if mark.any around.contains then "\x7b...\x7d"
    else "\x7b" ++ ", ".intercalate (literalEntries (mark.toList ++ around) entries) ++ "\x7d"
  termination_by structural v => v

def literalItems (around : List Nat) : List Value → List String
  | [] => []
  | v :: rest => v.literalWithin around :: literalItems around rest
  termination_by structural vs => vs

def literalEntries (around : List Nat) : Entries → List String
  | [] => []
  | (k, v) :: rest =>
    (k.literalWithin around ++ ": " ++ v.literalWithin around) :: literalEntries around rest
  termination_by structural es => es

end

def literal (v : Value) : String := v.literalWithin []

/-- The value as text: a text is itself, all else is its literal. -/
def display : Value → String
  | .text s => s
  | v => v.literal

mutual

/-- Whether the value can be written inside the collections that bear the marks `around`. As where
it is quoted, a collection that comes round again is not looked into. -/
def isWritableWithin (around : List Nat) : Value → Bool
  | .int n => n.natAbs < Text.numeralBound
  | @list mark items => mark.any around.contains || itemsWritable (mark.toList ++ around) items
  | @mapping mark entries =>
    mark.any around.contains || entriesWritable (mark.toList ++ around) entries
  | _ => true
  termination_by structural v => v

def itemsWritable (around : List Nat) : List Value → Bool
  | [] => true
  | v :: rest => v.isWritableWithin around && itemsWritable around rest
  termination_by structural vs => vs

def entriesWritable (around : List Nat) : Entries → Bool
  | [] => true
  | (k, v) :: rest =>
    k.isWritableWithin around && v.isWritableWithin around && entriesWritable around rest
  termination_by structural es => es

end

/-- Whether the value can be written: no whole number in it has too many digits. -/
def isWritable (v : Value) : Bool := v.isWritableWithin []

end Gamebook.Value
