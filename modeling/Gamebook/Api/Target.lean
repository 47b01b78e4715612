import Gamebook.Api.Address
import Gamebook.Text.Digit
import Gamebook.Text.Utf8

/-! The target of a request: an address without its escapes.

A path is unescaped twice, by who sends it and by who gets it, a query but once. -/

set_option autoImplicit false

namespace Gamebook.Api

/-- The bytes of escaped characters. A percent sign that two digits do not follow stands for
itself. -/
def unescapeBytes : List Char → List UInt8
  | '%' :: a :: b :: rest =>
    match Text.hexDigit? a, Text.hexDigit? b with
    | some x, some y => UInt8.ofNat (16 * x + y) :: unescapeBytes rest
    | _, _ => String.utf8EncodeChar '%' ++ unescapeBytes (a :: b :: rest)
  | c :: rest => String.utf8EncodeChar c ++ unescapeBytes rest
  | [] => []

def unescape (cs : List Char) : List Char :=
  Text.Utf8.decode (unescapeBytes cs)

-- In a query a plus sign stands for a blank.
def unescapeQuery (cs : List Char) : List Char :=
  unescape (cs.map fun c => if c = '+' then ' ' else c)

structure Target where
  path : List Char
  query : List (String × String)

namespace Target

/-- A part of a query: a name and its value, empty when it has none. -/
def readField (part : List Char) : String × String :=
  let (name, value) := Text.cutAt '=' part
  (Text.ofChars (unescapeQuery name), Text.ofChars (unescapeQuery (value.getD [])))

def readQuery (cs : List Char) : List (String × String) :=
  ((Text.splitOn '&' cs).filter (!·.isEmpty)).map readField

def ofAddress (a : Address) : Target where
  path := unescape (unescape a.path)
  query := readQuery a.query

/-- The value of a field of the query; of several the last. -/
def field? (t : Target) (name : String) : Option String :=
  t.query.reverse.lookup name

end Target

end Gamebook.Api
