import Gamebook.Text.Numeral
import Gamebook.Text.Split
import Gamebook.Value.Basic
import Gamebook.Yaml.Token

/-! What a plain scalar means: a truth value, null, a number, or else a text. -/

set_option autoImplicit false

namespace Gamebook.Yaml.Scalar

def trueWords : List String :=
  ["yes", "Yes", "YES", "true", "True", "TRUE", "on", "On", "ON"]

def falseWords : List String :=
  ["no", "No", "NO", "false", "False", "FALSE", "off", "Off", "OFF"]

def nullWords : List String := ["", "~", "null", "Null", "NULL"]

def isOrUnderscore (p : Char → Bool) (c : Char) : Bool := p c || c == '_'

def isBinary (c : Char) : Bool := c == '0' || c == '1'

def isOctal (c : Char) : Bool := '0' ≤ c && c ≤ '7'

def isHex (c : Char) : Bool := (Text.hexDigit? c).isSome

/-- Digits and low lines that begin with a digit. -/
def isDigits : List Char → Bool
  | [] => false
  | c :: rest => c.isDigit && rest.all (isOrUnderscore Char.isDigit)

def isCounting : List Char → Bool
  | [] => false
  | c :: rest => c.isDigit && c != '0' && rest.all (isOrUnderscore Char.isDigit)

def isSixty : List Char → Bool
  | [c] => c.isDigit
  | [c, d] => '0' ≤ c && c ≤ '5' && d.isDigit
  | _ => false

def withoutUnderscores (cs : List Char) : List Char := cs.filter (· != '_')

/-- The number that digits make in a base, refused when there are none, and in base ten when there
are too many. -/
def ofBase (base : Nat) (cs : List Char) : Except Refusal Nat :=
  match (withoutUnderscores cs).mapM Text.hexDigit? with
  | some (d :: digits) =>
    if base = 10 ∧ Text.maxDigits < (d :: digits).length then .error .badNumeral
    else .ok ((d :: digits).foldl (fun n d => base * n + d) 0)
  | _ => .error .badNumeral

/-- A whole number without its sign: in base two, sixteen, eight or ten, or in base sixty with
colons. -/
def readWhole? (cs : List Char) : Option (Except Refusal Nat) :=
  match cs with
  | '0' :: 'b' :: digits =>
    if !digits.isEmpty && digits.all (isOrUnderscore isBinary) then some (ofBase 2 digits) else none
  | '0' :: 'x' :: digits =>
    if !digits.isEmpty && digits.all (isOrUnderscore isHex) then some (ofBase 16 digits) else none
  | '0' :: digits =>
    if digits.all (isOrUnderscore isOctal) then some (ofBase 8 ('0' :: digits)) else none
  | cs =>
    match Text.splitOn ':' cs with
    | first :: parts =>
      if isCounting first && parts.all isSixty then
        some do
          let lead ← ofBase 10 first
          parts.foldlM (fun n part => return 60 * n + (← ofBase 10 part)) lead
      else none
    | [] => none

def isExponent : List Char → Bool
  | [] => true
  | e :: sign :: digits =>
    (e == 'e' || e == 'E') && (sign == '-' || sign == '+')
      && !digits.isEmpty && digits.all Char.isDigit
  | _ => false

def isFraction (cs : List Char) : Bool :=
  isExponent (cs.dropWhile (isOrUnderscore Char.isDigit))

def decimalValue (cs : List Char) : Option Float :=
  Text.readFloat? (String.ofList (withoutUnderscores cs))

/-- The sum of the parts of a number in base sixty: the last part counts once, the one before it
sixty times, and so on. A power of sixty beyond all floats is refused. -/
def sixties (parts : List Float) : Except Refusal Float :=
  parts.reverse.zipIdx.foldlM (fun total (part, place) =>
    let base := Float.ofNat (Nat.pow 60 place)
    if base.isFinite then .ok (total + part * base) else .error .overflow) 0

/-- A number with a point, without its sign: decimal, or in base sixty with colons. -/
def readReal? (cs : List Char) : Option (Except Refusal Float) :=
  let whole := cs.takeWhile (· != '.')
  match cs.dropWhile (· != '.') with
  | _ :: fraction =>
    if isDigits whole && isFraction fraction then (decimalValue cs).map .ok
    else
      match Text.splitOn ':' whole with
      | first :: part :: parts =>
        if isDigits first && (part :: parts).all isSixty
            && fraction.all (isOrUnderscore Char.isDigit) then
          ((Text.splitOn ':' cs).mapM decimalValue).map sixties
        else none
      | _ => none
  | [] => none

def infinityWords : List String := [".inf", ".Inf", ".INF"]

def nanWords : List String := [".nan", ".NaN", ".NAN"]

-- A real number; a number that begins with its point has no sign.
def readFloat? (s : String) : Option (Except Refusal Float) :=
  let (negative, rest) := Text.splitSign s.toList
  let signed := rest.length != s.length
  let word := String.ofList rest
  let size? : Option (Except Refusal Float) :=
    if infinityWords.contains word then some (.ok (1 / 0))
    else if nanWords.contains s then some (.ok (0 / 0))
    else
      match rest with
      | '.' :: c :: more =>
        if !signed && c.isDigit && isFraction (c :: more) then (decimalValue rest).map .ok else none
      | _ => readReal? rest
  size?.map fun size => size.map fun x => if negative then -x else x

def readInt? (s : String) : Option (Except Refusal Int) :=
  let (negative, rest) := Text.splitSign s.toList
  (readWhole? rest).map fun n? => n?.map fun (n : Nat) => if negative then -(n : Int) else n

def mergeKey : String := "<<"

/-- A scalar that stands for a default, which nothing here has. -/
def defaultKey : String := "="

/-- The value of a plain scalar. The two special keys have none outside a mapping's keys. -/
def resolve (s : String) : Except Refusal Value :=
  if trueWords.contains s then .ok (.bool true)
  else if falseWords.contains s then .ok (.bool false)
  else if nullWords.contains s then .ok .null
  else if s == mergeKey || s == defaultKey then .error .unreadable
  else
    match readFloat? s, readInt? s with
    | some x, _ => x.map .float
    | none, some n => n.map .int
    | none, none => .ok (.text s)

end Gamebook.Yaml.Scalar
