/-! The exact value of a finite floating-point number.

A finite double is a whole number of units of a power of two. `Binary` names that pair, so that
comparison with integers, truncation and printing are exact integer arithmetic. -/

set_option autoImplicit false

namespace Gamebook

/-- The number `± mantissa · 2 ^ exponent`. -/
structure Binary where
  negative : Bool
  mantissa : Nat
  exponent : Int
  deriving DecidableEq, Repr

namespace Binary

/-- The exact value of a double; `none` for infinities and for what is no number. -/
def ofFloat? (x : Float) : Option Binary :=
  let bits : Nat := x.toBits.toNat
  let negative := decide (Nat.pow 2 63 ≤ bits)
  let biased : Nat := bits / Nat.pow 2 52 % Nat.pow 2 11
  let fraction : Nat := bits % Nat.pow 2 52
  if biased = 2047 then none
  else if biased = 0 then some ⟨negative, fraction, -1074⟩
  else some ⟨negative, fraction + Nat.pow 2 52, (biased : Int) - 1075⟩

def toRat (b : Binary) : Rat :=
  let size : Rat :=
    if 0 ≤ b.exponent then (b.mantissa * Nat.pow 2 b.exponent.toNat : Nat)
    else mkRat b.mantissa (Nat.pow 2 (-b.exponent).toNat)
  if b.negative then -size else size

/-- The whole part: the digits after the point are dropped, whatever the sign. -/
def truncate (b : Binary) : Int :=
  let size : Nat :=
    if 0 ≤ b.exponent then b.mantissa * Nat.pow 2 b.exponent.toNat
    else b.mantissa / Nat.pow 2 (-b.exponent).toNat
  if b.negative then -(size : Int) else size

def isWhole (b : Binary) : Bool :=
  0 ≤ b.exponent || b.mantissa % Nat.pow 2 (-b.exponent).toNat == 0

def toInt? (b : Binary) : Option Int :=
  if b.isWhole then some b.truncate else none

end Binary

end Gamebook
