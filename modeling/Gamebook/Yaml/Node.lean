import Gamebook.Yaml.Token

/-! The nodes of a YAML document.

A document is a table of nodes that refer to each other by their places in it. An alias is a further
reference to the node of its anchor, so a collection may hold itself. -/

set_option autoImplicit false

namespace Gamebook.Yaml

/-- A node; it refers to the nodes in it by their places in the table. -/
inductive Node where
  | scalar (text : String) (plain : Bool)
  | seq (items : List Nat)
  | map (entries : List (Nat × Nat))
  deriving Inhabited, Repr

def Node.empty : Node := .scalar "" true

structure Document where
  nodes : Array Node := #[]
  /-- The places of the nodes, as they end: a node comes after those in it, but for those that hold
  it themselves. -/
  order : List Nat := []
  /-- The collections that an alias inside them refers to, each once. -/
  loops : List Nat := []
  root : Nat := 0

structure Reader where
  tokens : List Token
  refusal : Option Refusal
  /-- The nodes so far; the last to end comes first in the order. -/
  document : Document := {}
  anchors : List (String × Nat) := []

abbrev Read := StateT Reader (Except Refusal)

namespace Reader

def refuse {α : Type} : Read α := throw .unreadable

/-- The next token. Where the text has been refused, there is none to be had. -/
def peek : Read (Option Token) := do
  let r ← get
  match r.tokens, r.refusal with
  | [], some refusal => throw refusal
  | tokens, _ => return tokens.head?

def skip : Read Unit := modify fun r => { r with tokens := r.tokens.tail }

def nextIs (ts : List Token) : Read Bool := do
  return (← peek).any ts.contains

def expect (t : Token) : Read Unit := do
  if ← nextIs [t] then skip else refuse

-- Gives a node its place in the table. Its anchor is known from its beginning, before what is in
-- the node has been read.
def place (anchor : Option String) (read : Read Node) : Read Nat := do
  let i := (← get).document.nodes.size
  modify fun r => { r with
    document := { r.document with nodes := r.document.nodes.push .empty }
    anchors := (anchor.map (·, i)).toList ++ r.anchors }
  let node ← read
  modify fun r => { r with
    document := { r.document with
      nodes := r.document.nodes.setIfInBounds i node
      order := i :: r.document.order } }
  return i

def placeEmpty : Read Nat := place none (pure .empty)

def follow (name : String) : Read Nat := do
  let r ← get
  match r.anchors.lookup name with
  | some i => do
    if !r.document.order.contains i && !r.document.loops.contains i then
      set { r with document := { r.document with loops := i :: r.document.loops } }
    return i
  | none => refuse

/-- Where a node may stand: inside flow collections, in a block, or as the value of a block mapping,
where a sequence need not be indented. -/
inductive Place where
  | flow
  | block
  | blockValue
  deriving DecidableEq

mutual

def readNode (spot : Place) : Nat → Read Nat
  | 0 => refuse
  | fuel + 1 => do
    match ← peek with
    | some (.alias name) => do
      skip
      follow name
    | some (.anchor name) => do
      skip
      discard peek
      if ((← get).anchors.lookup name).isSome then refuse
      readContent spot (some name) fuel
    | _ => readContent spot none fuel

/-- A node after its anchor; where there is one nothing more need be written. -/
def readContent (spot : Place) (anchor : Option String) : Nat → Read Nat
  | 0 => refuse
  | fuel + 1 => do
    match ← peek with
    | some (.scalar text plain) => do
      skip
      place anchor (pure (.scalar text plain))
    | some .flowSequence => do
      skip
      place anchor (.seq <$> readFlowItems true fuel)
    | some .flowMapping => do
      skip
      place anchor (.map <$> readFlowEntries true fuel)
    | some .blockSequence =>
      if spot = .flow then nothing else do
        skip
        place anchor do
          let items ← readItems [.entry, .blockEnd] fuel
          expect .blockEnd
          return .seq items
    | some .blockMapping =>
      if spot = .flow then nothing else do
        skip
        place anchor do
          let entries ← readEntries fuel
          expect .blockEnd
          return .map entries
    | some .entry =>
      if spot = .blockValue then
        place anchor (.seq <$> readItems [.entry, .key, .value, .blockEnd] fuel)
      else nothing
    | _ => nothing
where
  nothing : Read Nat := if anchor.isSome then place anchor (pure .empty) else refuse

/-- The items of a block sequence; one of the tokens `ends` ends an empty item. -/
def readItems (ends : List Token) : Nat → Read (List Nat)
  | 0 => refuse
  | fuel + 1 => do
    if ← nextIs [.entry] then
      skip
      let item ← if ← nextIs ends then placeEmpty else readNode .block fuel
      return item :: (← readItems ends fuel)
    else return []

def readEntries : Nat → Read (List (Nat × Nat))
  | 0 => refuse
  | fuel + 1 => do
    if ← nextIs [.key] then
      skip
      let key ← readOptional .blockValue [.key, .value, .blockEnd] fuel
      let value ← readValue .blockValue [.key, .value, .blockEnd] fuel
      return (key, value) :: (← readEntries fuel)
    else return []

def readOptional (spot : Place) (ends : List Token) : Nat → Read Nat
  | 0 => refuse
  | fuel + 1 => do
    if ← nextIs ends then placeEmpty else readNode spot fuel

def readValue (spot : Place) (ends : List Token) : Nat → Read Nat
  | 0 => refuse
  | fuel + 1 => do
    if ← nextIs [.value] then
      skip
      readOptional spot ends fuel
    else placeEmpty

/-- The items of a flow sequence up to its end; a key makes a mapping of one entry. -/
def readFlowItems (first : Bool) : Nat → Read (List Nat)
  | 0 => refuse
  | fuel + 1 => do
    if ← nextIs [.flowSequenceEnd] then skip; return []
    if !first then expect .comma
    if ← nextIs [.flowSequenceEnd] then skip; return []
    let item ←
      if ← nextIs [.key] then do
        skip
        place none do
          let key ← readOptional .flow [.value, .comma, .flowSequenceEnd] fuel
          let value ← readValue .flow [.comma, .flowSequenceEnd] fuel
          return .map [(key, value)]
      else readNode .flow fuel
    return item :: (← readFlowItems false fuel)

/-- The entries of a flow mapping up to its end; a node without a colon is a key without value. -/
def readFlowEntries (first : Bool) : Nat → Read (List (Nat × Nat))
  | 0 => refuse
  | fuel + 1 => do
    if ← nextIs [.flowMappingEnd] then skip; return []
    if !first then expect .comma
    if ← nextIs [.flowMappingEnd] then skip; return []
    let entry ←
      if ← nextIs [.key] then do
        skip
        let key ← readOptional .flow [.value, .comma, .flowMappingEnd] fuel
        let value ← readValue .flow [.comma, .flowMappingEnd] fuel
        pure (key, value)
      else do pure (← readNode .flow fuel, ← placeEmpty)
    return entry :: (← readFlowEntries false fuel)

end

/-- Skips the directives before a document; a version must be given at most once, and be 1. -/
def skipDirectives (seen : Bool) : Nat → Read Unit
  | 0 => return
  | fuel + 1 => do
    match ← peek with
    | some (.version major) => do
      if seen || major != 1 then refuse
      skip
      skipDirectives true fuel
    | some .directive => do
      skip
      skipDirectives seen fuel
    | _ => return

def skipDocumentEnds : Nat → Read Unit
  | 0 => return
  | fuel + 1 => do
    if ← nextIs [.documentEnd] then
      skip
      skipDocumentEnds fuel

/-- The root of the single document of a stream; a stream without a document has none. -/
def readRoot (fuel : Nat) : Read (Option Nat) := do
  match ← peek with
  | none => return none
  | some (.version _) | some .directive | some .documentStart => do
    skipDirectives false fuel
    expect .documentStart
    match ← peek with
    | none | some .documentEnd | some .documentStart | some (.version _) | some .directive =>
      return some (← placeEmpty)
    | _ => return some (← readNode .block fuel)
  | _ => return some (← readNode .block fuel)

/-- A stream of at most one document. What follows the document is read up to where another one
would begin. -/
def readStream (fuel : Nat) : Read (Option Document) := do
  let root ← readRoot fuel
  skipDocumentEnds fuel
  if (← peek).isNone then
    let document := (← get).document
    return root.map fun root => { document with root, order := document.order.reverse }
  else
    skipDirectives false fuel
    discard peek
    refuse

end Reader

-- Reads the document of a text, if it has one. Each call of a reader is paid for by a token: no
-- more than eight calls stand between two tokens taken.
def Document.read (scanned : Scanned) : Except Refusal (Option Document) :=
  (Reader.readStream (8 * scanned.tokens.length + 8)).run'
    { tokens := scanned.tokens, refusal := scanned.refusal }

end Gamebook.Yaml
