import Gamebook.Text.Digit

/-! Numerals written as text.

Blanks may surround a numeral, a sign may precede it, and a single low line may stand between two
digits. Digits of any script count. -/

set_option autoImplicit false

namespace Gamebook.Text

def trimBlanks (cs : List Char) : List Char :=
  ((cs.dropWhile isBlank).reverse.dropWhile isBlank).reverse

def moreDigits : List Char → List Nat × List Char
  | '_' :: c :: rest =>
    match digit? c with
    | some d => let (digits, tail) := moreDigits rest; (d :: digits, tail)
    | none => ([], '_' :: c :: rest)
  | c :: rest =>
    match digit? c with
    | some d => let (digits, tail) := moreDigits rest; (d :: digits, tail)
    | none => ([], c :: rest)
  | [] => ([], [])

def digitRun : List Char → List Nat × List Char
  | c :: rest =>
    match digit? c with
    | some d => let (digits, tail) := moreDigits rest; (d :: digits, tail)
    | none => ([], c :: rest)
  | [] => ([], [])

def ofDigits (digits : List Nat) : Nat :=
  digits.foldl (fun n d => 10 * n + d) 0

def splitSign : List Char → Bool × List Char
  | '-' :: rest => (true, rest)
  | '+' :: rest => (false, rest)
  | rest => (false, rest)

/-- The most digits a whole number may have where it is read or written. -/
def maxDigits : Nat := 4300

/-- The first whole number with more digits than that. -/
def numeralBound : Nat := Nat.pow 10 maxDigits

theorem numeralBound_pos : 0 < numeralBound := by
  unfold numeralBound
  generalize maxDigits = digits
  exact Nat.pow_pos (by decide)

/-- What a whole number is written with. -/
theorem eq_minus_or_isDigit {n : Int} {c : Char} (member : c ∈ (toString n).toList) :
    c = '-' ∨ c.isDigit = true := by
  have digit {k : Nat} (member : c ∈ (toString k).toList) : c.isDigit = true := by
    have written : c ∈ Nat.toDigits 10 k := by simpa using member
    exact Nat.isDigit_of_mem_toDigits (by decide) (by decide) written
  cases n with
  | ofNat k => exact .inr (digit member)
  | negSucc k =>
    change c ∈ ("-" ++ toString (k + 1)).toList at member
    rw [String.toList_append, List.mem_append] at member
    rcases member with minus | member
    · exact .inl (by simpa using minus)
    · exact .inr (digit member)

def readInt? (s : String) : Option Int :=
  let (negative, rest) := splitSign (trimBlanks s.toList)
  match digitRun rest with
  | ([], _) | (_, _ :: _) => none
  | (digits, []) =>
    if maxDigits < digits.length then none
    else some (if negative then -(ofDigits digits : Int) else ofDigits digits)

-- The number `digits · 10 ^ exponent`, rounded to nearest. Exponents out of all range are settled
-- first, so that no huge power is formed.
def scaled (digits : Nat) (exponent : Int) : Float :=
  let places : Int := (Nat.toDigits 10 digits).length + exponent
  if digits = 0 ∨ places < -400 then 0
  else if 400 < places then 1 / 0
  else if 0 ≤ exponent then Float.ofScientific digits false exponent.toNat
  else Float.ofScientific digits true (-exponent).toNat

def readExponent? : List Char → Option Int
  | [] => some 0
  | e :: rest =>
    if e = 'e' ∨ e = 'E' then
      let (negative, rest) := splitSign rest
      match digitRun rest with
      | ([], _) | (_, _ :: _) => none
      | (digits, []) => some (if negative then -(ofDigits digits : Int) else ofDigits digits)
    else none

def readUnsigned? (cs : List Char) : Option Float := do
  let (whole, rest) := digitRun cs
  let (fraction, rest) := match rest with
    | '.' :: rest => digitRun rest
    | rest => ([], rest)
  if whole.isEmpty ∧ fraction.isEmpty then none
  else
    let exponent ← readExponent? rest
    some (scaled (ofDigits (whole ++ fraction)) (exponent - fraction.length))

/-- A number: decimal notation, an infinity, or the mark of what is no number. -/
def readFloat? (s : String) : Option Float :=
  let (negative, rest) := splitSign (trimBlanks s.toList)
  let word := String.ofList (rest.map Char.toLower)
  let size? :=
    if word = "inf" ∨ word = "infinity" then some (1 / 0)
    else if word = "nan" then some (0 / 0)
    else readUnsigned? rest
  size?.map fun size => if negative then -size else size

end Gamebook.Text
