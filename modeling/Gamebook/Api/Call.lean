import Gamebook.Api.Target
import Gamebook.Game.Play

/-! What clients ask for, and why they are refused. -/

set_option autoImplicit false

namespace Gamebook.Api

structure Request where
  method : String
  address : String
  body : Value := .null

def Request.verb (r : Request) : String := r.method.map Char.toUpper

inductive Route where
  | sessions
  | session (id : String)
  | choice (id : String)
  deriving DecidableEq, Repr

inductive Call where
  | create
  | view (id : String) (since : Int)
  | choose (id : String) (index : Int)
  | finish (id : String)
  deriving DecidableEq, Repr

inductive Problem where
  | notFound
  | methodNotAllowed
  | invalid
  | unknownSession (id : String)
  | noOption (index : Int)
  | fault (f : Fault)
  /-- The script runs on without end. -/
  | endless

/-- How requests are read: what each one asks for, or why it is refused. -/
abbrev Intake := Request → Except Problem Call

def Problem.ofStop : Stop → Problem
  | .fault f => .fault f
  | .tooDeep => .endless

namespace Route

/-- Whether a segment is the last word of a route, which a line break may follow. -/
def isLast (word segment : String) : Bool :=
  segment == word || segment == word ++ "\n"

def ofSegments? : List String → Option Route
  | ["", "api", last] => if isLast "sessions" last then some .sessions else none
  | ["", "api", "sessions", id] => if id.isEmpty then none else some (.session id)
  | ["", "api", "sessions", id, last] =>
    if !id.isEmpty && isLast "choose" last then some (.choice id) else none
  | _ => none

def ofPath? (path : List Char) : Option Route :=
  ofSegments? ((Text.splitOn '/' path).map Text.ofChars)

end Route

def isLeading (c : Char) : Bool :=
  c == '-' || ('1' ≤ c && c ≤ '9')

/-- What is left after leading zeros, of which `last` is the one just read. Low lines may stand
between them; of zeros alone, or before a point, the last one stays. -/
def afterZeros? (last : Char) : List Char → Option (List Char)
  | [] => some [last]
  | c :: rest =>
    if c == '0' || c == '_' then afterZeros? c rest
    else if isLeading c then some (c :: rest)
    else if c == '.' then some (last :: c :: rest)
    else none

def dropZeros? : List Char → Option (List Char)
  | [] => none
  | c :: rest =>
    if isLeading c then some (c :: rest)
    else if c == '0' then afterZeros? c rest
    else none

def dropPlaces (cs : List Char) : List Char :=
  match Text.cutAt '.' cs with
  | (whole, some places) => if !places.isEmpty && places.all (· == '0') then whole else cs
  | (_, none) => cs

def isGrouped (cs : List Char) : Bool :=
  cs.head? != some '_' && cs.getLast? != some '_'
    && (cs.zip cs.tail).all fun (c, d) => !(c == '_' && d == '_')

def splitMinus : List Char → Bool × List Char
  | '-' :: rest => (true, rest)
  | cs => (false, cs)

def readPlain? (cs : List Char) : Option Int :=
  let (negative, digits) := splitMinus cs
  if !digits.isEmpty && digits.all Char.isDigit && (digits == ['0'] || digits.head? != some '0')
      && digits.length ≤ Text.maxDigits then
    let size : Int := Text.ofDigits (digits.map fun c => c.toNat - '0'.toNat)
    some (if negative then -size else size)
  else none

def dropPlus? : List Char → Option (List Char)
  | '+' :: rest => if rest.head? == some '-' then none else some rest
  | cs => some cs

/-- A whole number as clients write it: blanks around it, a sign, leading zeros, low lines between
digits, and zeros after a point are all put up with. -/
def readWhole? (s : String) : Option Int := do
  let (negative, size) := splitMinus (← dropPlus? (Text.trimBlanks s.toList))
  let size := dropPlaces (← dropZeros? size)
  let size := if isGrouped size then size.filter (· != '_') else size
  readPlain? (if negative then '-' :: size else size)

/-- The whole number a field stands for. A real number must be whole, and not beyond 64 bits. -/
def wholeOf? : Value → Option Int
  | .int n => some n
  | .bool b => some (if b then 1 else 0)
  | .float x => do
    let n ← (← Binary.ofFloat? x).toInt?
    if n.natAbs < Nat.pow 2 63 then some n else none
  | .text s => readWhole? s
  | _ => none

def since? (t : Target) : Option Int :=
  match t.field? "since" with
  | some s => readWhole? s
  | none => some 0

def index? : Value → Option Int
  | .mapping entries => (Entries.get? entries "index").bind wholeOf?
  | _ => none

def Call.ofRoute (r : Request) (query : Target) : Route → Except Problem Call
  | .sessions =>
    if r.verb = "POST" then .ok .create else .error .methodNotAllowed
  | .session id =>
    if r.verb = "GET" then
      match since? query with
      | some since => .ok (.view id since)
      | none => .error .invalid
    else if r.verb = "DELETE" then .ok (.finish id)
    else .error .methodNotAllowed
  | .choice id =>
    if r.verb = "POST" then
      match index? r.body with
      | some index => .ok (.choose id index)
      | none => .error .invalid
    else .error .methodNotAllowed

def maxRedirects : Nat := 20

-- Reads a request for an address. Where a path leads nowhere but for the slashes at its end, the
-- client is sent on to the path without them.
def Call.readAt (r : Request) : Nat → Address → Except Problem Call
  | redirects, address =>
    let target := Target.ofAddress address
    match Route.ofPath? target.path with
    | some route => ofRoute r target route
    | none =>
      let path := (target.path.reverse.dropWhile (· == '/')).reverse
      match redirects, Route.ofPath? path with
      | redirects + 1, some _ => readAt r redirects (.ofPath path address.query)
      | _, _ => .error .notFound

-- Reads a request. Its form is checked before any session is looked for.
def Call.read : Intake := fun r =>
  readAt r maxRedirects (.read r.address)

end Gamebook.Api
