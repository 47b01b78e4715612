import Gamebook.Number.Binary

/-! The shortest decimal of a floating-point number.

Of all decimals that read back as the number, the one with the fewest digits is written, and among
those the nearest. `Shortest.digits` finds it in exact arithmetic; `Layout` says where the point
goes. -/

set_option autoImplicit false

namespace Gamebook

/-- The positive decimal `0.d₁d₂… · 10 ^ point`. -/
structure Decimal where
  digits : List Nat
  point : Int
  deriving DecidableEq, Repr

namespace Shortest

/-- A positive fraction on its way to a decimal: the value `value / scale` and the interval of
numbers that read back as it, from `low / scale` to `high / scale`. -/
structure Target where
  value : Nat
  low : Nat
  high : Nat
  scale : Nat
  closed : Bool

-- The neighbours of a double are one unit of its last place away, except that the one below a power
-- of two is half as far. The interval reaches halfway to each, and holds its ends when the mantissa
-- is even, since a tie is read as the even neighbour.
def Target.ofBinary (b : Binary) : Target :=
  let below : Nat := if b.mantissa = Nat.pow 2 52 ∧ -1074 < b.exponent then 1 else 2
  let lift := if 0 ≤ b.exponent then Nat.pow 2 b.exponent.toNat else 1
  let scale := if 0 ≤ b.exponent then 1 else Nat.pow 2 (-b.exponent).toNat
  { value := 4 * b.mantissa * lift
    low := (4 * b.mantissa - below) * lift
    high := (4 * b.mantissa + 2) * lift
    scale := 4 * scale
    closed := b.mantissa % 2 == 0 }

def Target.shift (t : Target) (shift : Int) : Target :=
  if 0 ≤ shift then
    let factor := Nat.pow 10 shift.toNat
    { t with value := t.value * factor, low := t.low * factor, high := t.high * factor }
  else { t with scale := t.scale * Nat.pow 10 (-shift).toNat }

def Target.admits (t : Target) (n : Nat) : Bool :=
  if t.closed then t.low ≤ n * t.scale && n * t.scale ≤ t.high
  else t.low < n * t.scale && n * t.scale < t.high

def Target.nearest? (t : Target) : Option Nat :=
  let lower := t.value / t.scale
  let upper := lower + 1
  match t.admits lower && lower != 0, t.admits upper with
  | true, true =>
    let down := t.value - lower * t.scale
    let up := upper * t.scale - t.value
    some (if down < up || (down == up && lower % 2 == 0) then lower else upper)
  | true, false => some lower
  | false, true => some upper
  | false, false => none

def decimalDigits (n : Nat) : List Nat :=
  (Nat.toDigits 10 n).map fun c => c.toNat - '0'.toNat

def trimZeros (digits : List Nat) : List Nat :=
  (digits.reverse.dropWhile (· == 0)).reverse

def Target.magnitude (t : Target) : Int :=
  let guess : Int := (decimalDigits t.value).length - (decimalDigits t.scale).length
  let one := { t with value := t.value, scale := t.scale }.shift (-guess)
  if one.value < one.scale then guess else guess + 1

/-- The first of 1, 2, … digits on whose grid some decimal reads back as the target. -/
def Target.search (t : Target) (magnitude : Int) (count : Nat) : Nat → Option Decimal
  | 0 => none
  | tries + 1 =>
    match (t.shift (count - magnitude)).nearest? with
    | some n =>
      let digits := decimalDigits n
      some { digits := trimZeros digits, point := magnitude + digits.length - count }
    | none => t.search magnitude (count + 1) tries

/-- The shortest decimal of a number other than zero; seventeen digits always suffice. -/
def ofBinary? (b : Binary) : Option Decimal :=
  if b.mantissa = 0 then none
  else
    let target := Target.ofBinary b
    target.search target.magnitude 1 17

end Shortest

/-- How a number is laid out as text: plain from `0.0001` up to sixteen digits before the point,
else with a signed exponent of at least two digits; a whole number keeps `.0`. -/
structure Layout where
  plainFrom : Int := -3
  plainTo : Int := 16
  exponentWidth : Nat := 2

namespace Layout

def digitText (digits : List Nat) : String :=
  String.ofList (digits.map Nat.digitChar)

def padded (width : Nat) (n : Nat) : String :=
  let text := toString n
  String.ofList (List.replicate (width - text.length) '0') ++ text

def decimal (layout : Layout) (d : Decimal) : String :=
  if layout.plainFrom ≤ d.point ∧ d.point ≤ layout.plainTo then
    if d.point ≤ 0 then
      "0." ++ digitText (List.replicate (-d.point).toNat 0 ++ d.digits)
    else
      let before := d.point.toNat
      let whole := (d.digits ++ List.replicate (before - d.digits.length) 0).take before
      let rest := d.digits.drop before
      digitText whole ++ "." ++ (if rest.isEmpty then "0" else digitText rest)
  else
    let exponent := d.point - 1
    let lead := digitText (d.digits.take 1)
    let rest := d.digits.drop 1
    lead ++ (if rest.isEmpty then "" else "." ++ digitText rest)
      ++ (if exponent < 0 then "e-" else "e+") ++ padded layout.exponentWidth exponent.natAbs

def float (layout : Layout) (x : Float) : String :=
  match Binary.ofFloat? x with
  | none => if x.isNaN then "nan" else if x < 0 then "-inf" else "inf"
  | some b =>
    (if b.negative then "-" else "") ++
      match Shortest.ofBinary? b with
      | none => "0.0"
      | some d => layout.decimal d

end Layout

end Gamebook
