/-! Cutting characters apart at a mark. -/

set_option autoImplicit false

namespace Gamebook.Text

def cutAt (mark : Char) : List Char → List Char × Option (List Char)
  | [] => ([], none)
  | c :: rest =>
    if c = mark then ([], some rest)
    else
      let (before, after) := cutAt mark rest
      (c :: before, after)

def splitOn (mark : Char) : List Char → List (List Char)
  | [] => [[]]
  | c :: rest =>
    if c = mark then [] :: splitOn mark rest
    else match splitOn mark rest with
      | part :: parts => (c :: part) :: parts
      | [] => [[c]]

theorem splitOn_ne_nil (mark : Char) (cs : List Char) : splitOn mark cs ≠ [] := by
  cases cs with
  | nil => simp [splitOn]
  | cons c rest =>
    rw [splitOn]
    split
    · simp
    · split <;> simp

theorem intercalate_splitOn (mark : Char) (cs : List Char) :
    [mark].intercalate (splitOn mark cs) = cs := by
  induction cs with
  | nil => simp [splitOn]
  | cons c rest ih =>
    rw [splitOn]
    split
    · next h =>
      obtain ⟨part, parts, eq⟩ := List.exists_cons_of_ne_nil (splitOn_ne_nil mark rest)
      rw [eq] at ih ⊢
      simp_all [List.intercalate]
    · split
      · next part parts eq =>
        rw [eq] at ih
        cases parts <;> simp_all [List.intercalate]
      · next eq => exact absurd eq (splitOn_ne_nil mark rest)

end Gamebook.Text
