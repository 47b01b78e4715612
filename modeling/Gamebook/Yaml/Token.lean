import Gamebook.Text.Numeral
import Gamebook.Text.Symbol

/-! The tokens of a YAML text.

Indentation, and the colons that turn what stands before them into keys, are settled here: a token
list marks where each block collection begins and ends and where each key and value begins.

A text is read from its beginning, and refused at the first place where it must be. So a text that
cannot be cut into tokens to its end still has the tokens that are settled before. -/

set_option autoImplicit false

namespace Gamebook.Yaml

inductive Token where
  /-- A version directive; the first number of the version is kept. -/
  | version (major : Nat)
  /-- A directive without meaning. -/
  | directive
  | documentStart
  | documentEnd
  | blockSequence
  | blockMapping
  | blockEnd
  | flowSequence
  | flowSequenceEnd
  | flowMapping
  | flowMappingEnd
  | entry
  | comma
  | key
  | value
  | alias (name : String)
  | anchor (name : String)
  | scalar (text : String) (plain : Bool)
  deriving DecidableEq, Repr

inductive Refusal where
  /-- It is no YAML, or holds what is not supported. -/
  | unreadable
  /-- A numeral, or the code of a character, has no value. -/
  | badNumeral
  /-- The code of a character is too large to be looked at. -/
  | overflow
  deriving DecidableEq, Repr

def isBreak (c : Char) : Bool :=
  c == '\n' || c == '\x85' || c == '\u2028' || c == '\u2029'

def endsLine : Option Char → Bool
  | none => true
  | some c => isBreak c

def endsWord : Option Char → Bool
  | none => true
  | some c => c == ' ' || c == '\t' || isBreak c

/-- What may yet turn out to be a key, if a colon follows it. -/
structure PendingKey where
  /-- How many tokens stand before it. -/
  position : Nat
  /-- Whether nothing but a key can stand here. -/
  required : Bool
  index : Nat
  line : Nat
  column : Nat

structure Lexer where
  rest : List Char
  /-- Whether the text ends where `rest` does; else what follows is beyond reading. -/
  whole : Bool := true
  /-- No loop through the rest takes more steps than this. -/
  bound : Nat
  index : Nat := 0
  line : Nat := 0
  column : Nat := 0
  /-- The tokens so far, newest first. -/
  tokens : List Token := []
  count : Nat := 0
  /-- The column of the innermost block collection, -1 outside all. -/
  indent : Int := -1
  outer : List Int := []
  keyAllowed : Bool := true
  /-- The pending key of each flow collection around, innermost first, and that of the block. -/
  pending : List (Option PendingKey) := [none]

abbrev Scan := StateT Lexer (Except Refusal)

namespace Lexer

def refuse {α : Type} : Scan α := throw .unreadable

def peek (x : Lexer) : Option Char := x.rest.head?

def peekAt (x : Lexer) (n : Nat) : Option Char := x.rest[n]?

def flowDepth (x : Lexer) : Nat := x.pending.length - 1

def inFlow (x : Lexer) : Bool := x.flowDepth != 0

def advanceOne (x : Lexer) : Lexer :=
  match x.rest with
  | [] => x
  | c :: rest =>
    if isBreak c then { x with rest, index := x.index + 1, line := x.line + 1, column := 0 }
    else
      let width := if c == '\uFEFF' then 0 else 1
      { x with rest, index := x.index + 1, column := x.column + width }

def advance : Nat → Lexer → Lexer
  | 0, x => x
  | n + 1, x => advance n x.advanceOne

def skip (n : Nat) : Scan Unit := modify (advance n)

def takeWhile (p : Char → Bool) : Scan (List Char) := do
  let taken := (← get).rest.takeWhile p
  skip taken.length
  return taken

/-- Takes a line break, if one stands here; the breaks that only end a line read as one. -/
def takeBreak : Scan (List Char) := do
  match (← get).peek with
  | some c =>
    if isBreak c then
      skip 1
      return [if c == '\x85' then '\n' else c]
    else return []
  | none => return []

def atSeparator (x : Lexer) : Bool :=
  (x.rest.take 3 == ['-', '-', '-'] || x.rest.take 3 == ['.', '.', '.']) && endsWord (x.peekAt 3)

def push (x : Lexer) (t : Token) : Lexer :=
  { x with tokens := t :: x.tokens, count := x.count + 1 }

def emit (t : Token) : Scan Unit := modify (push · t)

/-- Puts a token before those that came after the first `position` ones. -/
def insertAt (position : Nat) (t : Token) : Scan Unit :=
  modify fun x =>
    let later := x.count - position
    { x with tokens := x.tokens.take later ++ t :: x.tokens.drop later, count := x.count + 1 }

/-! Pending keys. -/

-- A key ends on the line where it begins, within 1024 characters.
def isStale (x : Lexer) (key : PendingKey) : Bool :=
  key.line != x.line || 1024 < x.index - key.index

def dropStale : Scan Unit := do
  let x ← get
  if x.pending.any (Option.any fun key => x.isStale key && key.required) then refuse
  set { x with pending := x.pending.map (Option.filter fun key => !x.isStale key) }

def dropKey : Scan Unit := do
  let x ← get
  match x.pending with
  | some key :: rest =>
    if key.required then refuse
    set { x with pending := none :: rest }
  | _ => return

def markKey : Scan Unit := do
  if (← get).keyAllowed then
    dropKey
    modify fun x =>
      let key : PendingKey := {
        position := x.count
        required := !x.inFlow && x.indent == x.column
        index := x.index, line := x.line, column := x.column }
      { x with pending := some key :: x.pending.tail }

def allowKey (allowed : Bool) : Scan Unit :=
  modify fun x => { x with keyAllowed := allowed }

/-! Indentation. -/

/-- Opens a block collection at a column, unless one is open there. -/
def openBlock (column : Nat) : Scan Bool := do
  let x ← get
  if x.indent < column then
    set { x with outer := x.indent :: x.outer, indent := column }
    return true
  else return false

/-- The lexer after closing the block collections right of a column. -/
def closed (x : Lexer) (column : Int) (indent : Int) : List Int → Lexer
  | [] => { x with indent, outer := [] }
  | wider :: outer =>
    if column < indent then closed (x.push .blockEnd) column wider outer
    else { x with indent, outer := wider :: outer }

def closeBlocks (column : Int) : Scan Unit :=
  modify fun x => if x.inFlow then x else x.closed column x.indent x.outer

/-! Between tokens. -/

/-- Skips blanks, comments and line breaks; after a line break of the block a key may begin. -/
def skipToToken : Nat → Scan Unit
  | 0 => return
  | fuel + 1 => do
    discard (takeWhile (· == ' '))
    if (← get).peek == some '#' then discard (takeWhile fun c => !isBreak c)
    if !(← takeBreak).isEmpty then
      if !(← get).inFlow then allowKey true
      skipToToken fuel

/-! Directives and separators. -/

def isNameChar (c : Char) : Bool :=
  c.isAlphanum || c == '-' || c == '_'

/-- Skips blanks and a comment up to the end of the line, where nothing else may stand. -/
def skipRestOfLine : Scan Unit := do
  discard (takeWhile (· == ' '))
  if (← get).peek == some '#' then discard (takeWhile fun c => !isBreak c)
  if !endsLine (← get).peek then refuse
  discard takeBreak

def takeNumber : Scan Nat := do
  let digits ← takeWhile Char.isDigit
  let x ← get
  if digits.isEmpty || (x.rest.isEmpty && !x.whole) then refuse
  if Text.maxDigits < digits.length then throw .badNumeral
  return Text.ofDigits (digits.map fun c => c.toNat - '0'.toNat)

def scanDirective : Scan Unit := do
  closeBlocks (-1)
  dropKey
  allowKey false
  skip 1
  let name ← takeWhile isNameChar
  if name.isEmpty then refuse
  let next := (← get).peek
  if !(next == some ' ' || endsLine next) then refuse
  if name == "YAML".toList then
    discard (takeWhile (· == ' '))
    let major ← takeNumber
    if (← get).peek != some '.' then refuse
    skip 1
    discard takeNumber
    let next := (← get).peek
    if !(next == some ' ' || endsLine next) then refuse
    emit (.version major)
  else if name == "TAG".toList then refuse
  else
    discard (takeWhile fun c => !isBreak c)
    emit .directive
  skipRestOfLine

def scanSeparator (t : Token) : Scan Unit := do
  closeBlocks (-1)
  dropKey
  allowKey false
  emit t
  skip 3

/-! Collections. -/

def scanFlowStart (t : Token) : Scan Unit := do
  markKey
  modify fun x => { x with pending := none :: x.pending }
  allowKey true
  emit t
  skip 1

def scanFlowEnd (t : Token) : Scan Unit := do
  if !(← get).inFlow then refuse
  dropKey
  modify fun x => { x with pending := x.pending.tail }
  allowKey false
  emit t
  skip 1

def scanComma : Scan Unit := do
  allowKey true
  dropKey
  emit .comma
  skip 1

def scanEntry : Scan Unit := do
  let x ← get
  if !x.inFlow then
    if !x.keyAllowed then refuse
    if ← openBlock x.column then emit .blockSequence
  allowKey true
  dropKey
  emit .entry
  skip 1

def scanKey : Scan Unit := do
  let x ← get
  if !x.inFlow then
    if !x.keyAllowed then refuse
    if ← openBlock x.column then emit .blockMapping
  allowKey (!x.inFlow)
  dropKey
  emit .key
  skip 1

/-- A colon makes the pending key a key; without one it begins a value whose key is empty. -/
def scanValue : Scan Unit := do
  let x ← get
  match x.pending with
  | some key :: rest =>
    set { x with pending := none :: rest }
    insertAt key.position .key
    if !x.inFlow then
      if ← openBlock key.column then insertAt key.position .blockMapping
    allowKey false
  | _ =>
    if !x.inFlow then
      if !x.keyAllowed then refuse
      if ← openBlock x.column then emit .blockMapping
    allowKey (!x.inFlow)
    dropKey
  emit .value
  skip 1

def scanReference (t : String → Token) : Scan Unit := do
  markKey
  allowKey false
  skip 1
  let name ← takeWhile isNameChar
  if name.isEmpty then refuse
  let next := (← get).peek
  if !(endsWord next || next.any fun c => "?:,]\x7d%@`".toList.contains c) then refuse
  emit (t (String.ofList name))

/-! Block scalars. -/

/-- How a block scalar treats its last line break, and its indentation if that is told. -/
structure BlockHeader where
  /-- `true` keeps all trailing breaks, `false` strips them, `none` keeps one. -/
  chomping : Option Bool := none
  increment : Option Nat := none

def takeChomping : Scan (Option Bool) := do
  match (← get).peek with
  | some '+' => skip 1; return some true
  | some '-' => skip 1; return some false
  | _ => return none

def takeIncrement : Scan (Option Nat) := do
  match (← get).peek with
  | some c =>
    if c.isDigit then
      if c == '0' then refuse
      skip 1
      return some (c.toNat - '0'.toNat)
    else return none
  | none => return none

def takeBlockHeader : Scan BlockHeader := do
  let early ← takeChomping
  let increment ← takeIncrement
  let late ← if early.isNone && increment.isSome then takeChomping else pure none
  let next := (← get).peek
  if !(next == some ' ' || endsLine next) then refuse
  skipRestOfLine
  return { chomping := early.or late, increment }

/-- The breaks before the first line of a block scalar, and the widest indentation met. -/
def takeLeadingBreaks : Nat → List Char → Nat → Scan (List Char × Nat)
  | 0, breaks, widest => return (breaks, widest)
  | fuel + 1, breaks, widest => do
    match (← get).peek with
    | some ' ' =>
      skip 1
      takeLeadingBreaks fuel breaks (max widest (← get).column)
    | some c =>
      if isBreak c then takeLeadingBreaks fuel (breaks ++ (← takeBreak)) widest
      else return (breaks, widest)
    | none => return (breaks, widest)

def skipIndent (indent : Nat) : Scan Unit := do
  let x ← get
  let blanks := (x.rest.takeWhile (· == ' ')).length
  skip (min blanks (indent - x.column))

def takeBreaks (indent : Nat) : Nat → List Char → Scan (List Char)
  | 0, breaks => return breaks
  | fuel + 1, breaks => do
    skipIndent indent
    match ← takeBreak with
    | [] => return breaks
    | c => takeBreaks indent fuel (breaks ++ c)

def atLine (x : Lexer) (indent : Nat) : Bool :=
  x.column == indent && x.peek.isSome

def isWhite (c : Option Char) : Bool :=
  c == some ' ' || c == some '\t'

-- The text of a block scalar's lines, its last line break, and the breaks after it. In folded style
-- a single break between two lines that begin with no blank reads as a blank. The parts of the text
-- so far are given newest first.
def takeBlockLines (folded : Bool) (indent : Nat) :
    Nat → List (List Char) → List Char → Scan (List Char × List Char × List Char)
  | 0, text, breaks => return (text.reverse.flatten, [], breaks)
  | fuel + 1, text, breaks => do
    let flush := !isWhite (← get).peek
    let line ← takeWhile fun c => !isBreak c
    let text := line :: breaks :: text
    let lineBreak ← takeBreak
    let breaks ← takeBreaks indent (← get).bound []
    let x ← get
    if x.atLine indent then
      let join :=
        if folded && lineBreak == ['\n'] && flush && !isWhite x.peek then
          if breaks.isEmpty then [' '] else []
        else lineBreak
      takeBlockLines folded indent fuel (join :: text) breaks
    else return (text.reverse.flatten, lineBreak, breaks)

def scanBlockScalar (folded : Bool) : Scan Unit := do
  allowKey true
  dropKey
  skip 1
  let header ← takeBlockHeader
  let x ← get
  let least := max 1 (x.indent + 1).toNat
  let fuel := x.bound
  let (breaks, indent) ← match header.increment with
    | some n => do
      let indent := least + n - 1
      pure (← takeBreaks indent fuel [], indent)
    | none => do
      let (breaks, widest) ← takeLeadingBreaks fuel [] 0
      pure (breaks, max least widest)
  let (text, lineBreak, breaks) ←
    if (← get).atLine indent then takeBlockLines folded indent fuel [] breaks
    else pure ([], [], breaks)
  let tail := match header.chomping with
    | some false => []
    | none => lineBreak
    | some true => lineBreak ++ breaks
  emit (.scalar (Text.ofChars (text ++ tail)) false)

/-! Quoted scalars. -/

def escapes : List (Char × Char) := [
  ('0', '\x00'), ('a', '\x07'), ('b', '\x08'), ('t', '\t'), ('\t', '\t'), ('n', '\n'),
  ('v', '\x0b'), ('f', '\x0c'), ('r', '\r'), ('e', '\x1b'), (' ', ' '), ('"', '"'),
  ('\\', '\\'), ('/', '/'), ('N', '\x85'), ('_', '\u00a0'), ('L', '\u2028'), ('P', '\u2029')]

def codeLength? : Char → Option Nat
  | 'x' => some 2
  | 'u' => some 4
  | 'U' => some 8
  | _ => none

def takeCode (length : Nat) : Scan Text.Symbol := do
  let digits := (← get).rest.take length
  match digits.mapM Text.hexDigit? with
  | some values =>
    if digits.length < length then refuse
    skip length
    let code := values.foldl (fun n d => 16 * n + d) 0
    if 0x7FFFFFFF < code then throw .overflow
    if 0x10FFFF < code then throw .badNumeral
    return .ofCode code
  | none => refuse

def takeQuotedBreaks : Nat → List Char → Scan (List Char)
  | 0, breaks => return breaks
  | fuel + 1, breaks => do
    if (← get).atSeparator then refuse
    discard (takeWhile fun c => c == ' ' || c == '\t')
    match ← takeBreak with
    | [] => return breaks
    | c => takeQuotedBreaks fuel (breaks ++ c)

def takeEscape (fuel : Nat) : Scan (List Text.Symbol) := do
  skip 1
  match (← get).peek with
  | none => refuse
  | some c =>
    match escapes.lookup c, codeLength? c with
    | some meant, _ => skip 1; return [.char meant]
    | none, some length => skip 1; return [← takeCode length]
    | none, none =>
      if isBreak c then
        discard takeBreak
        return (← takeQuotedBreaks fuel []).map .char
      else refuse

-- Blanks inside a quoted scalar: kept within a line, dropped around a line break, which itself
-- reads as a blank when it is alone.
def takeQuotedBlanks (fuel : Nat) : Scan (List Char) := do
  let blanks ← takeWhile fun c => c == ' ' || c == '\t'
  if (← get).peek.isNone then refuse
  match ← takeBreak with
  | [] => return blanks
  | lineBreak =>
    let breaks ← takeQuotedBreaks fuel []
    if lineBreak != ['\n'] then return lineBreak ++ breaks
    else if breaks.isEmpty then return [' ']
    else return breaks

def takeQuoted (mark : Char) : Nat → List (List Text.Symbol) → Scan (List Text.Symbol)
  | 0, _ => refuse
  | fuel + 1, text => do
    let x ← get
    match x.peek with
    | none => refuse
    | some c =>
      if c == mark then
        if mark == '\'' && x.peekAt 1 == some '\'' then
          skip 2
          takeQuoted mark fuel ([.char '\''] :: text)
        else
          skip 1
          return text.reverse.flatten
      else if c == '\\' && mark == '"' then
        takeQuoted mark fuel ((← takeEscape fuel) :: text)
      else if c == ' ' || c == '\t' || isBreak c then
        takeQuoted mark fuel ((← takeQuotedBlanks fuel).map .char :: text)
      else
        skip 1
        takeQuoted mark fuel ([.char c] :: text)

def scanQuoted (mark : Char) : Scan Unit := do
  markKey
  allowKey false
  skip 1
  let text ← takeQuoted mark (← get).bound []
  emit (.scalar (Text.ofSymbols text) false)

/-! Plain scalars. -/

def endsPlain (inFlow : Bool) : List Char → Bool
  | [] => true
  | c :: rest =>
    c == ' ' || c == '\t' || isBreak c
      || (c == ':' && (endsWord rest.head?
        || (inFlow && rest.head?.any fun d => ",[]\x7b\x7d".toList.contains d)))
      || (inFlow && ",?[]\x7b\x7d".toList.contains c)

def plainRun (inFlow : Bool) : List Char → Nat
  | [] => 0
  | c :: rest => if endsPlain inFlow (c :: rest) then 0 else 1 + plainRun inFlow rest

/-- Line breaks and blanks between the lines of a plain scalar; `none` before a separator. -/
def takePlainBreaks : Nat → List Char → Scan (Option (List Char))
  | 0, breaks => return some breaks
  | fuel + 1, breaks => do
    match (← get).peek with
    | some ' ' =>
      skip 1
      takePlainBreaks fuel breaks
    | some c =>
      if isBreak c then
        let breaks := breaks ++ (← takeBreak)
        if (← get).atSeparator then return none
        takePlainBreaks fuel breaks
      else return some breaks
    | none => return some breaks

/-- What joins a plain scalar to its next part; `none` when it ends here. -/
def takePlainJoin : Scan (Option (List Char)) := do
  let blanks ← takeWhile (· == ' ')
  match ← takeBreak with
  | [] => return if blanks.isEmpty then none else some blanks
  | lineBreak =>
    allowKey true
    if (← get).atSeparator then return none
    match ← takePlainBreaks (← get).bound [] with
    | none => return none
    | some breaks =>
      if lineBreak != ['\n'] then return some (lineBreak ++ breaks)
      else if breaks.isEmpty then return some [' ']
      else return some breaks

-- A plain scalar, after the parts so far, which are given newest first. It goes on over lines that
-- are indented beyond the block.
def takePlain : Nat → List (List Char) → List Char → Scan (List Char)
  | 0, text, _ => return text.reverse.flatten
  | fuel + 1, text, join => do
    let x ← get
    if x.peek == some '#' then return text.reverse.flatten
    let length := plainRun x.inFlow x.rest
    if length = 0 then return text.reverse.flatten
    allowKey false
    let part := x.rest.take length
    skip length
    let text := part :: join :: text
    match ← takePlainJoin with
    | none => return text.reverse.flatten
    | some join =>
      let x ← get
      if x.peek == some '#' || (!x.inFlow && (x.column : Int) < x.indent + 1) then
        return text.reverse.flatten
      takePlain fuel text join

def scanPlain : Scan Unit := do
  markKey
  allowKey false
  let text ← takePlain (← get).bound [] []
  emit (.scalar (Text.ofChars text) true)

def plainBegins (x : Lexer) : Bool :=
  match x.peek with
  | none => false
  | some c =>
    if endsWord (some c) then false
    else if !("-?:,[]\x7b\x7d#&*!|>'\"%@`".toList.contains c) then true
    else !endsWord (x.peekAt 1) && (c == '-' || (!x.inFlow && (c == '?' || c == ':')))

/-! The whole text. -/

def scanToken (x : Lexer) (c : Char) : Scan Unit :=
  let wordFollows := endsWord (x.peekAt 1)
  if c == '%' && x.column == 0 then scanDirective
  else if x.column == 0 && x.atSeparator then
    scanSeparator (if c == '-' then .documentStart else .documentEnd)
  else if c == '[' then scanFlowStart .flowSequence
  else if c == '\x7b' then scanFlowStart .flowMapping
  else if c == ']' then scanFlowEnd .flowSequenceEnd
  else if c == '\x7d' then scanFlowEnd .flowMappingEnd
  else if c == ',' then scanComma
  else if c == '-' && wordFollows then scanEntry
  else if c == '?' && (x.inFlow || wordFollows) then scanKey
  else if c == ':' && (x.inFlow || wordFollows) then scanValue
  else if c == '*' then scanReference .alias
  else if c == '&' then scanReference .anchor
  else if c == '|' && !x.inFlow then scanBlockScalar false
  else if c == '>' && !x.inFlow then scanBlockScalar true
  else if c == '\'' || c == '"' then scanQuoted c
  else if x.plainBegins then scanPlain
  else refuse

/-- Scans the next token; whether there is one. -/
def scanNext : Scan Bool := do
  skipToToken (← get).bound
  dropStale
  closeBlocks (← get).column
  match (← get).peek with
  | none => do
    closeBlocks (-1)
    dropKey
    return false
  | some c => do
    scanToken (← get) c
    return true

def scanAll : Nat → Lexer → Lexer × Option Refusal
  | 0, x => (x, none)
  | fuel + 1, x =>
    match scanNext.run x with
    | .ok (true, x) => scanAll fuel x
    | .ok (false, x) => (x, none)
    | .error refusal => (x, some refusal)

-- The tokens before which nothing can be put any more: those before the first pending key.
def settled (x : Lexer) : List Token :=
  let keys := (x.pending.filterMap id).filter fun key => !x.isStale key
  x.tokens.reverse.take (keys.foldl (fun n key => min n key.position) x.count)

end Lexer

/-- The tokens of a text, and why there are no more of them if the text is refused. -/
structure Scanned where
  tokens : List Token
  refusal : Option Refusal := none

-- Cuts a text into tokens; every token takes a character, so the length of the text bounds them. A
-- text that is not `whole` goes on beyond reading.
def Token.scan (text : List Char) (whole : Bool) : Scanned :=
  let rest := if text.head? == some '\uFEFF' then text.tail else text
  let bound := rest.length + 1
  match Lexer.scanAll bound { rest, whole, bound } with
  | (x, none) => { tokens := x.tokens.reverse }
  | (x, refusal) => { tokens := x.settled, refusal }

end Gamebook.Yaml
