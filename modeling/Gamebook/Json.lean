import Gamebook.Number.Shortest
import Gamebook.Text.Numeral
import Gamebook.Text.Quoted
import Gamebook.Value.Basic

/-! Script data as JSON text.

The order of members is kept, a number without point and exponent is a whole number of any size,
and every other number is the nearest double. Three words beyond the standard stand for numbers
that are not finite. -/

set_option autoImplicit false

namespace Gamebook.Json

def isSpace (c : Char) : Bool :=
  c == ' ' || c == '\n' || c == '\r' || c == '\t'

def skipSpace (cs : List Char) : List Char :=
  cs.dropWhile isSpace

def readHex4? : List Char → Option (Nat × List Char)
  | a :: b :: c :: d :: rest => do
    let a ← Text.hexDigit? a
    let b ← Text.hexDigit? b
    let c ← Text.hexDigit? c
    let d ← Text.hexDigit? d
    some (((a * 16 + b) * 16 + c) * 16 + d, rest)
  | _ => none

/-- The symbol named by an escape sequence, after its backslash. Two escaped halves of a character
beyond the first 65536 are joined. -/
def readEscape? : List Char → Option (Text.Symbol × List Char)
  | 'n' :: rest => some (.char '\n', rest)
  | 't' :: rest => some (.char '\t', rest)
  | 'r' :: rest => some (.char '\r', rest)
  | 'b' :: rest => some (.char '\x08', rest)
  | 'f' :: rest => some (.char '\x0c', rest)
  | 'u' :: rest => do
    let (high, rest) ← readHex4? rest
    match rest with
    | '\\' :: 'u' :: more =>
      if 0xD800 ≤ high ∧ high < 0xDC00 then
        let (low, after) ← readHex4? more
        if 0xDC00 ≤ low ∧ low < 0xE000 then
          some (.ofCode (0x10000 + (high - 0xD800) * 0x400 + (low - 0xDC00)), after)
        else some (.ofCode high, rest)
      else some (.ofCode high, rest)
    | _ => some (.ofCode high, rest)
  | c :: rest => if c == '"' || c == '\\' || c == '/' then some (.char c, rest) else none
  | [] => none

def readSymbols? : Nat → List Text.Symbol → List Char → Option (String × List Char)
  | 0, _, _ => none
  | fuel + 1, done, cs =>
    match cs with
    | [] => none
    | '"' :: rest => some (Text.ofSymbols done.reverse, rest)
    | '\\' :: rest => do
      let (symbol, rest) ← readEscape? rest
      readSymbols? fuel (symbol :: done) rest
    | c :: rest => readSymbols? fuel (.char c :: done) rest

def isNumeral (c : Char) : Bool :=
  c.isDigit || c == '-' || c == '+' || c == '.' || c == 'e' || c == 'E'

def readNumber? (cs : List Char) : Option (Value × List Char) :=
  let text := cs.takeWhile isNumeral
  let rest := cs.dropWhile isNumeral
  let value :=
    if text.any fun c => c == '.' || c == 'e' || c == 'E' then
      (Text.readFloat? (String.ofList text)).map Value.float
    else (String.ofList text).toInt?.map Value.int
  value.map (·, rest)

def readWord? (word : String) (value : Value) (cs : List Char) : Option (Value × List Char) :=
  if cs.take word.length = word.toList then some (value, cs.drop word.length) else none

mutual

def readValue? : Nat → List Char → Option (Value × List Char)
  | 0, _ => none
  | fuel + 1, cs =>
    match skipSpace cs with
    | '"' :: rest =>
      (readSymbols? fuel [] rest).map fun (s, rest) => (.text s, rest)
    | '[' :: rest =>
      match skipSpace rest with
      | ']' :: rest => some (.ofList [], rest)
      | rest => (readItems? fuel rest).map fun (items, rest) => (.ofList items, rest)
    | '\x7b' :: rest =>
      match skipSpace rest with
      | '\x7d' :: rest => some (.ofEntries [], rest)
      | rest => (readMembers? fuel rest).map fun (entries, rest) => (.ofEntries entries, rest)
    | 'n' :: rest => readWord? "null" .null ('n' :: rest)
    | 't' :: rest => readWord? "true" (.bool true) ('t' :: rest)
    | 'f' :: rest => readWord? "false" (.bool false) ('f' :: rest)
    | 'N' :: rest => readWord? "NaN" (.float (0 / 0)) ('N' :: rest)
    | 'I' :: rest => readWord? "Infinity" (.float (1 / 0)) ('I' :: rest)
    | '-' :: 'I' :: rest => readWord? "-Infinity" (.float (-1 / 0)) ('-' :: 'I' :: rest)
    | rest => readNumber? rest

def readItems? : Nat → List Char → Option (List Value × List Char)
  | 0, _ => none
  | fuel + 1, cs => do
    let (item, rest) ← readValue? fuel cs
    match skipSpace rest with
    | ',' :: rest => do
      let (items, rest) ← readItems? fuel rest
      some (item :: items, rest)
    | ']' :: rest => some ([item], rest)
    | _ => none

def readMembers? : Nat → List Char → Option (Entries × List Char)
  | 0, _ => none
  | fuel + 1, cs => do
    let (key, rest) ← readValue? fuel cs
    match skipSpace rest with
    | ':' :: rest => do
      let (value, rest) ← readValue? fuel rest
      match skipSpace rest with
      | ',' :: rest => do
        let (entries, rest) ← readMembers? fuel rest
        some ((key, value) :: entries, rest)
      | '\x7d' :: rest => some ([(key, value)], rest)
      | _ => none
    | _ => none

end

-- The value written by a JSON text; every nested value consumes a character, so the length of the
-- text bounds the nesting.
def read? (s : String) : Option Value := do
  let cs := s.toList
  let (value, rest) ← readValue? (2 * cs.length + 2) cs
  if (skipSpace rest).isEmpty then some value else none

def escapeChar (c : Char) : List Char :=
  if c = '"' then ['\\', '"']
  else if c = '\\' then ['\\', '\\']
  else if c = '\n' then ['\\', 'n']
  else if c = '\r' then ['\\', 'r']
  else if c = '\t' then ['\\', 't']
  else if c.toNat < 32 then '\\' :: 'u' :: Text.hexDigits 4 c.toNat
  else [c]

def escapeSymbol : Text.Symbol → List Char
  | .char c => escapeChar c
  | .half place => '\\' :: 'u' :: Text.hexDigits 4 (Text.Symbol.half place).code

def renderText (s : String) : String :=
  String.ofList ('"' :: (Text.symbols s).flatMap escapeSymbol ++ ['"'])

def renderFloat (x : Float) : String :=
  if x.isNaN then "NaN"
  else if x.isFinite then ({} : Layout).float x
  else if x < 0 then "-Infinity" else "Infinity"

def renderScalar : Value → String
  | .bool b => if b then "true" else "false"
  | .int n => toString n
  | .float x => renderFloat x
  | .text s => s
  | _ => "null"

mutual

def render : Value → String
  | .text s => renderText s
  | .list items => "[" ++ ",".intercalate (renderItems items) ++ "]"
  | .mapping entries => "\x7b" ++ ",".intercalate (renderMembers entries) ++ "\x7d"
  | .null => renderScalar .null
  | .bool b => renderScalar (.bool b)
  | .int n => renderScalar (.int n)
  | .float x => renderScalar (.float x)
  termination_by structural v => v

def renderItems : List Value → List String
  | [] => []
  | v :: rest => render v :: renderItems rest
  termination_by structural vs => vs

-- The name of a member is a text, whatever the key.
def renderMembers : Entries → List String
  | [] => []
  | (k, v) :: rest => (renderText (renderScalar k) ++ ":" ++ render v) :: renderMembers rest
  termination_by structural es => es

end

end Gamebook.Json
