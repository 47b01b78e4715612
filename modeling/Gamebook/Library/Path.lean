/-! Paths of files and folders, as text and as steps. -/

set_option autoImplicit false

namespace Gamebook

structure Path where
  /-- The slashes that an absolute path begins with, empty for a relative one. -/
  root : String := ""
  steps : List String
  deriving DecidableEq, Repr

namespace Path

/-- The root that leading slashes stand for: two keep their own meaning, more are as good as one. -/
def rootOf (s : String) : String :=
  match (s.toList.takeWhile (· == '/')).length with
  | 0 => ""
  | 2 => "//"
  | _ => "/"

/-- Reads a path. Empty steps, and steps to where one is already, are left out. -/
def read (s : String) : Path where
  root := rootOf s
  steps := (s.splitOn "/").filter fun step => step != "" && step != "."

def text (p : Path) : String :=
  if p.root.isEmpty && p.steps.isEmpty then "." else p.root ++ "/".intercalate p.steps

def child (p : Path) (name : String) : Path :=
  { p with steps := p.steps ++ [name] }

def parent (p : Path) : Path :=
  { p with steps := p.steps.dropLast }

@[simp] theorem parent_child (p : Path) (name : String) : (p.child name).parent = p := by
  simp [parent, child]

end Path

end Gamebook
