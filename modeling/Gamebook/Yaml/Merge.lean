import Gamebook.Yaml.Node
import Gamebook.Yaml.Scalar

/-! Merge keys: how a mapping takes over the entries of others.

Merging works on the table of nodes. Afterwards a mapping has no merge key left, and the entries
that it takes over stand before its own. A merge key is dropped before the mappings that it names
are merged in turn, so that a mapping may even name itself. -/

set_option autoImplicit false

namespace Gamebook.Yaml

abbrev Merge := StateT (Array Node) (Except Refusal)

namespace Merge

def entries (nodes : Array Node) (i : Nat) : List (Nat × Nat) :=
  match nodes[i]? with
  | some (.map entries) => entries
  | _ => []

/-- Whether a node is this word, written plainly. -/
def isWord (nodes : Array Node) (word : String) (i : Nat) : Bool :=
  match nodes[i]? with
  | some (.scalar text plain) => plain && text == word
  | _ => false

/-- What the first merge key names, and the entries without it. -/
def takeSource? (nodes : Array Node) : List (Nat × Nat) → Option (Nat × List (Nat × Nat))
  | [] => none
  | (key, value) :: rest =>
    if isWord nodes Scalar.mergeKey key then some (value, rest)
    else (takeSource? nodes rest).map fun (source, others) => (source, (key, value) :: others)

def settleKey (nodes : Array Node) (entry : Nat × Nat) : Array Node :=
  if isWord nodes Scalar.defaultKey entry.1 then
    nodes.setIfInBounds entry.1 (.scalar Scalar.defaultKey false)
  else nodes

mutual

/-- Merges into a mapping what its merge keys name, after the entries `taken` over already. -/
def merge (i : Nat) (taken : List (Nat × Nat)) : Nat → Merge Unit
  | 0 => throw .unreadable
  | fuel + 1 => do
    let nodes ← get
    match takeSource? nodes (entries nodes i) with
    | some (source, others) => do
      set (nodes.setIfInBounds i (.map others))
      let more ← offered source fuel
      merge i (taken ++ more) fuel
    | none =>
      let own := entries nodes i
      set (own.foldl settleKey (nodes.setIfInBounds i (.map (taken ++ own))))

/-- The entries that a node has to offer: those of a mapping, or of several, of which the earlier
win. -/
def offered (source : Nat) : Nat → Merge (List (Nat × Nat))
  | 0 => throw .unreadable
  | fuel + 1 => do
    match (← get)[source]? with
    | some (.seq items) => offeredByAll items fuel
    | _ => offeredByMapping source fuel

def offeredByAll (items : List Nat) : Nat → Merge (List (Nat × Nat))
  | 0 => throw .unreadable
  | fuel + 1 => do
    match items with
    | [] => return []
    | item :: rest => do
      let first ← offeredByMapping item fuel
      return (← offeredByAll rest fuel) ++ first

def offeredByMapping (source : Nat) : Nat → Merge (List (Nat × Nat))
  | 0 => throw .unreadable
  | fuel + 1 => do
    match (← get)[source]? with
    | some (.map _) => do
      merge source [] fuel
      return entries (← get) source
    | _ => throw .unreadable

end

def references (nodes : Array Node) : Nat :=
  nodes.foldl (fun n node => n + match node with
    | .scalar _ _ => 0
    | .seq items => items.length
    | .map entries => entries.length) 0

-- The table after merging into a mapping. A merge key is met once and leads through no more than
-- the items of one list, so the square of the number of references bounds the depth.
def into (nodes : Array Node) (i : Nat) : Except Refusal (Array Node) :=
  (StateT.run (merge i [] (4 * (references nodes + 1) * (references nodes + 1))) nodes).map Prod.snd

end Merge

end Gamebook.Yaml
