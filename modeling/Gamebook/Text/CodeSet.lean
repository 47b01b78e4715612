/-! Sets of code points, listed as inclusive ranges. -/

set_option autoImplicit false

namespace Gamebook.Text

structure CodeSet where
  ranges : List (Nat × Nat)

def CodeSet.contains (set : CodeSet) (c : Char) : Bool :=
  set.ranges.any fun (first, last) => first ≤ c.toNat && c.toNat ≤ last

theorem CodeSet.contains_iff (set : CodeSet) (c : Char) :
    set.contains c ↔ ∃ range ∈ set.ranges, range.1 ≤ c.toNat ∧ c.toNat ≤ range.2 := by
  simp [CodeSet.contains]

end Gamebook.Text
