import Gamebook.Text.Split
import Gamebook.Text.Symbol

/-! Addresses, as clients write them and as they are asked for.

A client writes an address in full, or leaves out its scheme and host, or the slash it begins with.
What is asked for is a path that begins at the root and goes nowhere by way of dots, and a query.
Both are still escaped. -/

set_option autoImplicit false

namespace Gamebook.Api

structure Address where
  path : List Char
  query : List Char := []

namespace Address

/-- Takes a segment of a path after those `taken`, the latest first. One dot stays where one is, two
dots go back a segment, but not beyond the root. -/
def take (taken : List (List Char)) (segment : List Char) : List (List Char) :=
  if segment = ['.'] then taken
  else if segment = ['.', '.'] then if taken = [[]] then taken else taken.tail
  else segment :: taken

def removeDots (path : List Char) : List Char :=
  ['/'].intercalate ((Text.splitOn '/' path).foldl take []).reverse

def isScheme : List Char → Bool
  | [] => true
  | c :: rest =>
    c.isAlpha && rest.all fun d => d.isAlphanum || d == '+' || d == '.' || d == '-'

/-- The scheme of an address, empty when it has none, and what follows. -/
def splitScheme (cs : List Char) : List Char × List Char :=
  match Text.cutAt ':' cs with
  | (scheme, some rest) => if isScheme scheme then (scheme, rest) else ([], cs)
  | (_, none) => ([], cs)

/-- The host in what stands between two slashes and the path: neither who asks, nor the door. -/
def hostOf (authority : List Char) : List Char :=
  (authority.reverse.takeWhile (· != '@')).reverse.takeWhile (· != ':')

def splitHost : List Char → List Char × List Char
  | '/' :: '/' :: rest => (hostOf (rest.takeWhile (· != '/')), rest.dropWhile (· != '/'))
  | cs => ([], cs)

-- Reads an address. One without a scheme or a host begins at the root, however many slashes it
-- begins with. What follows a number sign is not asked for.
def read (s : String) : Address :=
  let (cs, _) := Text.cutAt '#' (Text.chars s)
  let (cs, query) := Text.cutAt '?' cs
  let (scheme, cs) := splitScheme cs
  let (host, path) := splitHost cs
  let path := if scheme.isEmpty && host.isEmpty then path else removeDots path
  { path :=
      if scheme.isEmpty || host.isEmpty then removeDots ('/' :: path.dropWhile (· == '/')) else path
    query := query.getD [] }

-- The address of a path that is not escaped. A percent sign is escaped, and that is enough: no
-- other character makes an escape.
def ofPath (path query : List Char) : Address where
  path := removeDots (path.flatMap fun c => if c = '%' then ['%', '2', '5'] else [c])
  query := query

end Address

end Gamebook.Api
