import Gamebook.Library.Path

/-! Folders and the files in them. -/

set_option autoImplicit false

namespace Gamebook

inductive Tree where
  | file (text : String)
  | folder (entries : List (String × Tree))
  deriving Inhabited

namespace Tree

def empty : Tree := .folder []

def entries : Tree → List (String × Tree)
  | .file _ => []
  | .folder entries => entries

def child? (t : Tree) (name : String) : Option Tree :=
  t.entries.lookup name

def isFolder : Tree → Bool
  | .file _ => false
  | .folder _ => true

/-- Follows steps from a tree; `above` holds the folders around it, innermost first. Only a folder
can be stepped into, or out of. Of the folders beyond the outermost nothing is known. -/
def follow? (above : List Tree) : Tree → List String → Option Tree
  | t, [] => some t
  | .file _, _ :: _ => none
  | .folder entries, step :: rest =>
    if step = ".." then
      match above with
      | [] => follow? [] empty rest
      | outer :: above => follow? above outer rest
    else
      (entries.lookup step).bind fun t => follow? (.folder entries :: above) t rest

/-- What lies at a path; absolute paths begin beyond the tree. -/
def find? (t : Tree) (p : Path) : Option Tree :=
  follow? [] (if p.root.isEmpty then t else empty) p.steps

/-- Replaces an entry, or adds it when there is none of its name. -/
def setEntry (name : String) (item : Tree) : List (String × Tree) → List (String × Tree)
  | [] => [(name, item)]
  | (other, t) :: rest =>
    if other = name then (name, item) :: rest else (other, t) :: setEntry name item rest

/-- Changes what lies at the end of some steps; folders on the way are made where they lack. -/
def alter (f : Option Tree → Tree) : List String → Option Tree → Tree
  | [], t => f t
  | step :: rest, t =>
    let entries := (t.map Tree.entries).getD []
    .folder (setEntry step (alter f rest (entries.lookup step)) entries)

def writeFile (t : Tree) (p : Path) (text : String) : Tree :=
  alter (fun _ => .file text) p.steps (some t)

def makeFolder (t : Tree) (p : Path) : Tree :=
  alter (·.getD empty) p.steps (some t)

def graft (t : Tree) (p : Path) (item : Tree) : Tree :=
  alter (fun _ => item) p.steps (some t)

def namesEnding (t : Tree) (suffix : String) : List String :=
  ((t.entries.map Prod.fst).filter (·.endsWith suffix)).mergeSort (· ≤ ·)

theorem lookup_setEntry (name other : String) (item : Tree) (entries : List (String × Tree)) :
    (setEntry name item entries).lookup other
      = if other = name then some item else entries.lookup other := by
  induction entries with
  | nil =>
    by_cases h : other = name
    · simp [setEntry, h]
    · simp [setEntry, List.lookup_cons, h, beq_eq_false_iff_ne.2 h]
  | cons entry rest ih =>
    obtain ⟨first, t⟩ := entry
    by_cases h : first = name
    · by_cases h' : other = name
      · simp [setEntry, h, h']
      · simp [setEntry, h, List.lookup_cons, h', beq_eq_false_iff_ne.2 h']
    · by_cases h' : other = first
      · simp [setEntry, h, h']
      · simp [setEntry, h, List.lookup_cons, beq_eq_false_iff_ne.2 h', ih]

end Tree

end Gamebook
