import Gamebook.Value.Basic
import Gamebook.Yaml.Merge

/-! The data that a YAML text means.

Plain scalars are resolved, merge keys are followed, and of two equal keys the later one gives the
value. What cannot be understood is looked for level by level: all that stands directly in the
collections of one level comes before what stands deeper. -/

set_option autoImplicit false

namespace Gamebook.Yaml

structure Sweep where
  nodes : Array Node
  values : Array Value
  /-- The collections that have been met. -/
  met : List Nat := []
  /-- Those of them that have yet to be looked into, the latest first. -/
  waiting : List Nat := []

abbrev Understand := StateT Sweep (Except Refusal)

namespace Sweep

def meet (i : Nat) : Understand Unit := do
  let s ← get
  match s.nodes[i]? with
  | some (.scalar text plain) => do
    let v ← if plain then Scalar.resolve text else pure (.text text)
    set { s with values := s.values.setIfInBounds i v }
  | _ =>
    if !s.met.contains i then
      set { s with met := i :: s.met, waiting := i :: s.waiting }

def meetKey (i : Nat) : Understand Unit := do
  match (← get).nodes[i]? with
  | some (.scalar _ _) => meet i
  | _ => throw .unreadable

def lookInto (i : Nat) : Understand Unit := do
  let s ← get
  match s.nodes[i]? with
  | some (.seq items) => items.forM meet
  | some (.map _) => do
    let nodes ← Merge.into s.nodes i
    set { s with nodes }
    (Merge.entries nodes i).forM fun (key, value) => do
      meetKey key
      meet value
  | _ => return

def lookDeeper : Nat → Understand Unit
  | 0 => return
  | fuel + 1 => do
    match (← get).waiting with
    | [] => return
    | waiting => do
      modify fun s => { s with waiting := [] }
      waiting.reverse.forM lookInto
      lookDeeper fuel

/-- Writes entries one after the other; of equal keys the last gives the value. -/
def collect (entries : Entries) : Entries :=
  entries.foldl (fun done (key, value) => Entries.insert key value done) []

/-- Gives the collection at a place its value, out of those of the nodes in it. -/
def assemble (s : Sweep) (marked : Bool) (values : Array Value) (i : Nat) : Array Value :=
  let mark := if marked then some i else none
  let value (i : Nat) : Value := values[i]?.getD .null
  match s.nodes[i]? with
  | some (.seq items) => values.setIfInBounds i (@Value.list mark (items.map value))
  | some (.map entries) =>
    values.setIfInBounds i
      (@Value.mapping mark (collect (entries.map fun (k, v) => (value k, value v))))
  | _ => values

end Sweep

namespace Document

-- How often the values of collections are put together. Each time a collection that holds itself
-- comes to hold itself one level deeper. A script is read through such a collection once as a
-- choice and once as an action, through a few as its outer parts, and quoted through each once
-- more.
def rounds (d : Document) : Nat :=
  if d.loops.isEmpty then 1 else 3 * d.loops.length + 8

def value (d : Document) : Except Refusal Value := do
  let ((), s) ← (do
    Sweep.meet d.root
    Sweep.lookDeeper (d.nodes.size + 1) : Understand Unit).run
      { nodes := d.nodes, values := Array.replicate d.nodes.size .null }
  let values := Nat.repeat (fun values => d.order.foldl (s.assemble !d.loops.isEmpty) values)
    d.rounds s.values
  return values[d.root]?.getD .null

end Document

def isAllowed (c : Char) : Bool :=
  let n := c.toNat
  n == 9 || n == 10 || n == 13 || (0x20 ≤ n && n ≤ 0x7E) || n == 0x85
    || (0xA0 ≤ n && n ≤ 0xFFFD) || 0x10000 ≤ n

def unifyLineEnds : List Char → List Char
  | '\r' :: '\n' :: rest => '\n' :: unifyLineEnds rest
  | '\r' :: rest => '\n' :: unifyLineEnds rest
  | c :: rest => c :: unifyLineEnds rest
  | [] => []

-- How much of a text can be read when the first character that it may not hold is at a place. A
-- text is looked at in stretches, a first one and then smaller ones, and one with such a character
-- is refused as a whole when it is come to.
def lengthBefore (place : Nat) : Nat :=
  if place < 8192 then 0 else 8192 + (place - 8192) / 4096 * 4096

-- The data of a YAML text of at most one document, null when it has none. Of a text that holds what
-- it may not, the beginning is read, and what is wrong with a code or a number in it is found
-- first.
def read (text : String) : Except Refusal Value := do
  let cs := unifyLineEnds (Text.chars text)
  match cs.findIdx? (!isAllowed ·) with
  | some place =>
    match Document.read (Token.scan (cs.take (lengthBefore place)) false) with
    | .error refusal => throw refusal
    | .ok _ => throw .unreadable
  | none =>
    match ← Document.read (Token.scan cs true) with
    | none => return .null
    | some document => document.value

end Gamebook.Yaml
