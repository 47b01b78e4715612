import Gamebook.Text.Printable
import Gamebook.Text.Symbol

/-! Quoted texts, as messages show them.

A text stands between apostrophes, or between quotation marks when it holds an apostrophe and no
quotation mark. The mark itself, the backslash, hidden characters and halves of characters are
escaped. -/

set_option autoImplicit false

namespace Gamebook.Text

def hexDigits (width n : Nat) : List Char :=
  let digits := Nat.toDigits 16 n
  List.replicate (width - digits.length) '0' ++ digits

/-- A code point in the shortest of the three forms that hold it. -/
def escapeCode (code : Nat) : List Char :=
  if code < 0x100 then '\\' :: 'x' :: hexDigits 2 code
  else if code < 0x10000 then '\\' :: 'u' :: hexDigits 4 code
  else '\\' :: 'U' :: hexDigits 8 code

def escape (mark : Char) : Symbol → List Char
  | .char c =>
    if c = mark ∨ c = '\\' then ['\\', c]
    else if c = '\n' then ['\\', 'n']
    else if c = '\r' then ['\\', 'r']
    else if c = '\t' then ['\\', 't']
    else if isPrintable c then [c]
    else escapeCode c.toNat
  | .half place => escapeCode (Symbol.half place).code

def quoteMark (cs : List Char) : Char :=
  if '\'' ∈ cs ∧ '"' ∉ cs then '"' else '\''

def quote (s : String) : String :=
  let mark := quoteMark s.toList
  String.ofList (mark :: (symbols s).flatMap (escape mark) ++ [mark])

end Gamebook.Text
