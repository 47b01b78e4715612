import Gamebook.Value.Display

/-! Data as clients can be sent it.

A whole number that cannot be written, and half a character, cannot be sent at all; a number that is
not finite is sent as null. -/

set_option autoImplicit false

namespace Gamebook.Value

mutual

def isSendable : Value → Bool
  | .text s => !Text.holdsHalf s
  | .int n => (Value.int n).isWritable
  | .list items => itemsSendable items
  | .mapping entries => entriesSendable entries
  | _ => true
  termination_by structural v => v

def itemsSendable : List Value → Bool
  | [] => true
  | v :: rest => v.isSendable && itemsSendable rest
  termination_by structural vs => vs

def entriesSendable : Entries → Bool
  | [] => true
  | (k, v) :: rest => k.isSendable && v.isSendable && entriesSendable rest
  termination_by structural es => es

end

mutual

/-- The value with null for each number that is not finite. -/
def finite : Value → Value
  | .float x => if x.isFinite then .float x else .null
  | .list items => .ofList (finiteItems items)
  | .mapping entries => .ofEntries (finiteEntries entries)
  | v => v
  termination_by structural v => v

def finiteItems : List Value → List Value
  | [] => []
  | v :: rest => v.finite :: finiteItems rest
  termination_by structural vs => vs

def finiteEntries : Entries → Entries
  | [] => []
  | (k, v) :: rest => (k, v.finite) :: finiteEntries rest
  termination_by structural es => es

end

end Gamebook.Value
