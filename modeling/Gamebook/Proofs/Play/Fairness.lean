import Gamebook.Proofs.Number.Exact
import Gamebook.Proofs.Play.Selection
import Mathlib.Algebra.BigOperators.Group.List.Basic
import Mathlib.Algebra.Order.BigOperators.Group.List
import Mathlib.Data.List.Forall2
import Mathlib.Order.Interval.Set.Basic

/-! How a draw is shared out between weights.

Exactly computed, the running sums cut the unit interval in proportion to the weights, and a draw selects
the part on which it falls. Where sums and products are rounded, a greater draw still selects no earlier
weight.
-/

set_option autoImplicit false

namespace Gamebook

namespace Draw

/-! ### Running sums of numbers -/

/-- Where the share at a position begins, after all those before it. -/
def edge (shares : List ℚ) (i : Nat) : ℚ := (shares.take i).sum

/-- The part of the unit interval that falls to the share at a position. -/
def part (shares : List ℚ) (i : Nat) : Set ℚ :=
  Set.Ico (edge shares i / shares.sum) (edge shares (i + 1) / shares.sum)

section Edges

variable {shares : List ℚ} {i j : Nat}

theorem edge_zero (shares : List ℚ) : edge shares 0 = 0 := rfl

theorem edge_length (shares : List ℚ) : edge shares shares.length = shares.sum := by
  rw [edge, List.take_length]

theorem edge_succ (inside : i < shares.length) : edge shares (i + 1) = edge shares i + shares[i] :=
  List.sum_take_succ shares i inside

theorem edge_cons_succ (w : ℚ) (shares : List ℚ) (i : Nat) :
    edge (w :: shares) (i + 1) = w + edge shares i := List.sum_cons

theorem getElem_sumsFrom (sum : ℚ) (inside : i < (sumsFrom sum shares).length) :
    (sumsFrom sum shares)[i] = sum + edge shares (i + 1) := by
  induction shares generalizing sum i with
  | nil => cases inside
  | cons w rest ih =>
    cases i with
    | zero => exact congrArg (sum + ·) (add_zero w).symm
    | succ i =>
      rw [edge_cons_succ, ← add_assoc]
      exact ih (sum + w) (Nat.lt_of_succ_lt_succ inside)

theorem getElem_runningSums (inside : i < (runningSums shares).length) :
    (runningSums shares)[i] = edge shares (i + 1) := by
  cases shares with
  | nil => cases inside
  | cons w rest =>
    cases i with
    | zero => exact (add_zero w).symm
    | succ i =>
      rw [edge_cons_succ]
      exact getElem_sumsFrom w (Nat.lt_of_succ_lt_succ inside)

variable (positive : ∀ w ∈ shares, 0 < w)

include positive in
theorem edge_lt (before : i < j) (within : j ≤ shares.length) : edge shares i < edge shares j := by
  induction j with
  | zero => cases before
  | succ j ih =>
    have more := positive _ (List.getElem_mem within)
    have next : edge shares j < edge shares (j + 1) := by
      rw [edge_succ within]
      linarith
    rcases Nat.lt_succ_iff_lt_or_eq.1 before with less | rfl
    · exact (ih less (Nat.le_of_succ_le within)).trans next
    · exact next

include positive in
theorem edge_le (before : i ≤ j) (within : j ≤ shares.length) : edge shares i ≤ edge shares j := by
  rcases Nat.lt_or_eq_of_le before with less | rfl
  · exact (edge_lt positive less within).le
  · exact le_rfl

include positive in
/-- The running sums find the share on which a number falls. -/
theorem findIdx_runningSums {x : ℚ} (least : 0 ≤ x) (inside : i < shares.length) :
    (runningSums shares).findIdx (x < ·) = i ↔ edge shares i ≤ x ∧ x < edge shares (i + 1) := by
  rw [List.findIdx_eq (by rwa [length_runningSums]), getElem_runningSums, decide_eq_true_iff, and_comm]
  refine and_congr_left fun _ => ?_
  constructor
  · intro passed
    cases i with
    | zero => rwa [edge_zero]
    | succ i =>
      have before := passed i (Nat.lt_succ_self i)
      rw [getElem_runningSums, decide_eq_false_iff_not] at before
      exact not_lt.1 before
  · intro reached j before
    rw [getElem_runningSums, decide_eq_false_iff_not, not_lt]
    exact (edge_le positive before inside.le).trans reached

theorem findIdx_runningSums_lt {x : ℚ} (given : shares ≠ []) (most : x < shares.sum) :
    (runningSums shares).findIdx (x < ·) < shares.length := by
  have some := List.length_pos_iff.2 given
  have last : shares.length - 1 < (runningSums shares).length := by
    rw [length_runningSums]
    omega
  rw [← length_runningSums shares]
  apply List.findIdx_lt_length_of_exists
  refine ⟨(runningSums shares)[shares.length - 1], List.getElem_mem last, ?_⟩
  rwa [getElem_runningSums, Nat.sub_add_cancel some, edge_length, decide_eq_true_iff]

theorem mem_part_iff {q : ℚ} (whole : 0 < shares.sum) :
    q ∈ part shares i ↔ edge shares i ≤ q * shares.sum ∧ q * shares.sum < edge shares (i + 1) := by
  rw [part, Set.mem_Ico, div_le_iff₀ whole, lt_div_iff₀ whole]

end Edges

/-- The unit interval is cut into one part for each share, as long as the share is of the whole. -/
structure CutsUnit (shares : List ℚ) : Prop where
  length : ∀ i (inside : i < shares.length),
    edge shares (i + 1) / shares.sum - edge shares i / shares.sum = shares[i] / shares.sum
  nonempty : ∀ i < shares.length, (part shares i).Nonempty
  disjoint : ∀ i < shares.length, ∀ j < shares.length, i ≠ j → ∀ q ∈ part shares i, q ∉ part shares j
  covers : ∀ q, (∃ i < shares.length, q ∈ part shares i) ↔ 0 ≤ q ∧ q < 1

theorem cutsUnit {shares : List ℚ} (positive : ∀ w ∈ shares, 0 < w) (given : shares ≠ []) :
    CutsUnit shares := by
  have whole : 0 < shares.sum := List.sum_pos shares positive given
  have least (i : Nat) (inside : i ≤ shares.length) : 0 ≤ edge shares i :=
    edge_le positive (Nat.zero_le i) inside
  have scaled {q : ℚ} (low : 0 ≤ q) (below : q < 1) : 0 ≤ q * shares.sum ∧ q * shares.sum < shares.sum :=
    ⟨mul_nonneg low whole.le, (mul_lt_iff_lt_one_left whole).2 below⟩
  constructor
  · intro i inside
    rw [edge_succ inside, add_div, add_sub_cancel_left]
  · intro i inside
    exact Set.nonempty_Ico.2 (div_lt_div_of_pos_right (edge_lt positive (Nat.lt_succ_self i) inside) whole)
  · intro i inside j within other q here there
    rw [mem_part_iff whole] at here there
    have low := (least i inside.le).trans here.1
    exact other (((findIdx_runningSums positive low inside).2 here).symm.trans
      ((findIdx_runningSums positive low within).2 there))
  · intro q
    constructor
    · rintro ⟨i, inside, falls⟩
      obtain ⟨above, below⟩ := (mem_part_iff whole).1 falls
      have most := edge_le positive (Nat.succ_le_of_lt inside) le_rfl
      rw [edge_length] at most
      exact ⟨nonneg_of_mul_nonneg_left ((least i inside.le).trans above) whole,
        (mul_lt_iff_lt_one_left whole).1 (below.trans_le most)⟩
    · rintro ⟨low, below⟩
      obtain ⟨start, stop⟩ := scaled low below
      have inside := findIdx_runningSums_lt given stop
      exact ⟨_, inside, (mem_part_iff whole).2 ((findIdx_runningSums positive start inside).1 rfl)⟩

/-! ### Running sums of floats -/

/-- The position that halving the range from `lo` to `hi` finds for `x` in sorted sums. -/
def bisect (sums : List Float) (x : Float) (lo hi : Nat) : Nat :=
  if lo < hi then
    if sums[(lo + hi) / 2]?.any (x < ·) then bisect sums x lo ((lo + hi) / 2)
    else bisect sums x ((lo + hi) / 2 + 1) hi
  else lo
termination_by hi - lo

/-- Among the positions up to the last one, a draw is given the first whose sum exceeds it. -/
theorem position_eq_min (sums : List Float) (x : Float) :
    position sums x = min (sums.length - 1) (sums.findIdx (x < ·)) := by
  rw [position, List.dropLast_eq_take, List.findIdx_take]

/-- Halving finds the position before which no sum exceeds `x` and from which on each one does. -/
theorem bisect_eq {sums : List Float} {x : Float} {lo hi k : Nat} (least : lo ≤ k) (most : k ≤ hi)
    (within : hi ≤ sums.length) (before : ∀ i (_ : i < sums.length), i < k → ¬x < sums[i])
    (after : ∀ i (_ : i < sums.length), k ≤ i → i < hi → x < sums[i]) : bisect sums x lo hi = k := by
  fun_induction bisect sums x lo hi with
  | case1 lo hi left above ih =>
    have inside : (lo + hi) / 2 < sums.length := by omega
    rw [List.getElem?_eq_getElem inside, Option.any_some, decide_eq_true_iff] at above
    refine ih least (not_lt.1 fun high => before _ inside high above) (by omega) ?_
    exact fun i inside onward short => after i inside onward (by omega)
  | case2 lo hi left below ih =>
    have inside : (lo + hi) / 2 < sums.length := by omega
    rw [List.getElem?_eq_getElem inside, Option.any_some, decide_eq_true_iff] at below
    exact ih (not_le.1 fun low => below (after _ inside low (by omega))) most within after
  | case3 lo hi done => omega

theorem bisect_eq_min {sums : List Float} (sorted : sums.Pairwise (· ≤ ·)) (x : Float) {hi : Nat}
    (within : hi ≤ sums.length) : bisect sums x 0 hi = min hi (sums.findIdx (x < ·)) := by
  refine bisect_eq (Nat.zero_le _) (min_le_left _ _) within ?_ ?_
  · intro i inside before
    exact decide_eq_false_iff_not.1 (List.not_of_lt_findIdx (before.trans_le (min_le_right _ _)))
  · intro i inside after short
    have found : sums.findIdx (x < ·) ≤ i := by omega
    have exceeds : x < sums[sums.findIdx (x < ·)] :=
      decide_eq_true_iff.1 (@List.findIdx_getElem _ _ sums (found.trans_lt inside))
    rcases Nat.lt_or_eq_of_le found with less | same
    · exact float_lt_of_lt_of_le exceeds (List.pairwise_iff_getElem.1 sorted _ _ _ inside less)
    · simpa only [same] using exceeds

theorem position_mono (sums : List Float) {x y : Float} (most : x ≤ y) :
    position sums x ≤ position sums y := by
  rw [position_eq_min, position_eq_min]
  refine min_le_min_left _ (List.findIdx_le_findIdx fun s _ exceeds => ?_)
  exact decide_eq_true_iff.2 (float_lt_of_le_of_lt most (decide_eq_true_iff.1 exceeds))

theorem findIdx_of_isExactly {sums : List Float} {exact : List ℚ} {x : Float} {q : ℚ}
    (same : List.Forall₂ IsExactly sums exact) (number : IsExactly x q) :
    sums.findIdx (x < ·) = exact.findIdx (q < ·) := by
  induction same with
  | nil => rfl
  | cons first _ ih =>
    rw [List.findIdx_cons, List.findIdx_cons, ih, decide_eq_decide.2 (number.lt_iff first)]

theorem isFinite_of_sumsFrom {sum total : Float} {weights : List Float}
    (ends : (sum :: sumsFrom sum weights).getLast? = some total) (finite : total.isFinite = true) :
    sum.isFinite = true ∧ ∀ w ∈ weights, w.isFinite = true := by
  induction weights generalizing sum with
  | nil =>
    cases ends
    exact ⟨finite, nofun⟩
  | cons w rest ih =>
    obtain ⟨next, others⟩ := @ih (sum + w) ends
    obtain ⟨first, second⟩ := isFinite_of_add next
    exact ⟨first, List.forall_mem_cons.2 ⟨second, others⟩⟩

/-- Weights whose sum is finite are finite themselves. -/
theorem isFinite_of_runningSums {total : Float} {weights : List Float}
    (ends : (runningSums weights).getLast? = some total) (finite : total.isFinite = true) :
    ∀ w ∈ weights, w.isFinite = true := by
  cases weights with
  | nil => cases ends
  | cons w rest => exact List.forall_mem_cons.2 (isFinite_of_sumsFrom ends finite)

theorem pairwise_of_isExactly {sums : List Float} {shares : List ℚ} (positive : ∀ w ∈ shares, 0 < w)
    (same : List.Forall₂ IsExactly sums (runningSums shares)) : sums.Pairwise (· ≤ ·) := by
  obtain ⟨alike, each⟩ := List.forall₂_iff_get.1 same
  rw [List.pairwise_iff_getElem]
  intro i j inside within before
  have short : j + 1 ≤ shares.length := by
    rw [← length_runningSums shares, ← alike]
    exact within
  refine ((each i inside (alike ▸ inside)).le_iff (each j within (alike ▸ within))).2 ?_
  rw [List.get_eq_getElem, List.get_eq_getElem, getElem_runningSums, getElem_runningSums]
  exact edge_le positive (Nat.succ_le_succ before.le) short

end Draw

namespace Event

def shares (events : List Event) : List ℚ := (events.filter isWeighted).map (exactly ·.weight)

def sums (events : List Event) : List Float :=
  Draw.runningSums ((events.filter isWeighted).map (·.weight))

def place (events : List Event) (total u : Float) : Nat := Draw.position (sums events) (u * total)

/-- The number `q` is drawn, and nothing is rounded in adding up the weights and in scaling it. -/
structure DrawnExactly (events : List Event) (total u : Float) (q : ℚ) : Prop where
  number : IsExactly u q
  least : 0 ≤ q
  most : q < 1
  added : List.Forall₂ IsExactly (sums events) (Draw.runningSums (shares events))
  scaled : IsExactly (u * total) (q * (shares events).sum)

section Fair

variable {events : List Event} {total : Float}

theorem length_shares (events : List Event) : (shares events).length = (events.filter isWeighted).length :=
  List.length_map _

theorem length_sums (events : List Event) : (sums events).length = (events.filter isWeighted).length := by
  rw [sums, Draw.length_runningSums, List.length_map]

variable (summed : total? events = some total) (finite : total.isFinite = true)

include summed finite in
theorem isExactly_weight {e : Event} (competes : e ∈ events.filter isWeighted) :
    IsExactly e.weight (exactly e.weight) ∧ 0 < exactly e.weight := by
  have bounded := Draw.isFinite_of_runningSums summed finite e.weight (List.mem_map_of_mem competes)
  have exact := isExactly_exactly bounded
  exact ⟨exact, (isExactly_zero.lt_iff exact).1 (isWeighted_iff.1 (List.mem_filter.1 competes).2)⟩

include summed finite in
theorem shares_pos : ∀ w ∈ shares events, 0 < w := by
  intro w among
  obtain ⟨e, competes, rfl⟩ := List.mem_map.1 among
  exact (isExactly_weight summed finite competes).2

theorem shares_ne_nil (several : 2 ≤ (events.filter isWeighted).length) : shares events ≠ [] := by
  apply List.ne_nil_of_length_pos
  rw [length_shares]
  omega

/-- Where sums never decrease, the halving search finds the place of a draw. -/
theorem place_eq_bisect (sorted : (sums events).Pairwise (· ≤ ·)) (total u : Float) :
    place events total u =
      Draw.bisect (sums events) (u * total) 0 ((events.filter isWeighted).length - 1) := by
  rw [Draw.bisect_eq_min sorted _ (by rw [length_sums]; omega), place, Draw.position_eq_min, length_sums]

theorem place_of_drawnExactly (several : 2 ≤ (events.filter isWeighted).length)
    (positive : ∀ w ∈ shares events, 0 < w) {u : Float} {q : ℚ}
    (drawn : DrawnExactly events total u q) :
    (∀ i < (events.filter isWeighted).length,
      place events total u = i ↔
        Draw.edge (shares events) i ≤ q * (shares events).sum ∧
          q * (shares events).sum < Draw.edge (shares events) (i + 1)) ∧
      place events total u =
        Draw.bisect (sums events) (u * total) 0 ((events.filter isWeighted).length - 1) ∧
      place events total u =
        Draw.bisect (sums events) (u * total) 0 (events.filter isWeighted).length := by
  have given := shares_ne_nil several
  have whole : 0 < (shares events).sum := List.sum_pos _ positive given
  have most : q * (shares events).sum < (shares events).sum :=
    (mul_lt_iff_lt_one_left whole).2 drawn.most
  have found : (sums events).findIdx (u * total < ·) =
      (Draw.runningSums (shares events)).findIdx (q * (shares events).sum < ·) :=
    Draw.findIdx_of_isExactly drawn.added drawn.scaled
  have inside := Draw.findIdx_runningSums_lt given most
  have sorted := Draw.pairwise_of_isExactly positive drawn.added
  rw [← found, length_shares] at inside
  -- the number lies below the whole sum, so that the cap at the last position changes nothing
  have uncapped : place events total u = (sums events).findIdx (u * total < ·) := by
    rw [place, Draw.position_eq_min, length_sums]
    exact min_eq_right (Nat.le_pred_of_lt inside)
  refine ⟨fun i within => ?_, place_eq_bisect sorted total u, ?_⟩
  · rw [uncapped, found]
    exact Draw.findIdx_runningSums positive (mul_nonneg drawn.least whole.le) (by rwa [length_shares])
  · rw [Draw.bisect_eq_min sorted _ (by rw [length_sums]), min_eq_right inside.le, uncapped]

include summed finite in
theorem select_at_place (several : 2 ≤ (events.filter isWeighted).length) (dice : Dice) :
    ∃ event, (events.filter isWeighted)[place events total dice.next.1]? = some event ∧
      select events dice = .ok (some event, dice.next.2) := by
  obtain ⟨event, drawn, -⟩ := exists_atNumber (ne_nil_of_several several) dice.next.1
  have bounded : hasFiniteTotal events = true := by rw [hasFiniteTotal, summed, Option.all_some, finite]
  refine ⟨event, ?_, by rw [select_of_several several, if_pos bounded, drawn]⟩
  rw [atNumber, summed] at drawn
  exact drawn

end Fair

/-- Two or more positive weights share out a draw fairly. The unit interval is cut in proportion to them,
and a draw selects the event on whose part it falls, if nothing is rounded; the last position is then found
without being a bound. A greater draw never selects an event that stands before, rounded or not. -/
theorem select_fair {events : List Event} {total : Float}
    (several : 2 ≤ (events.filter isWeighted).length) (summed : total? events = some total)
    (finite : total.isFinite = true) :
    let weighted := events.filter isWeighted
    let n := weighted.length
    let whole := (shares events).sum
    List.Forall₂ (fun e w => IsExactly e.weight w ∧ 0 < w) weighted (shares events) ∧
      Draw.CutsUnit (shares events) ∧
      (∀ dice, ∃ event, weighted[place events total dice.next.1]? = some event ∧
        select events dice = .ok (some event, dice.next.2)) ∧
      (∀ u q, DrawnExactly events total u q →
        (∀ i < n, (place events total u = i ↔
            Draw.edge (shares events) i ≤ q * whole ∧ q * whole < Draw.edge (shares events) (i + 1)) ∧
          (place events total u = i ↔ q ∈ Draw.part (shares events) i)) ∧
        place events total u = Draw.bisect (sums events) (u * total) 0 (n - 1) ∧
        place events total u = Draw.bisect (sums events) (u * total) 0 n) ∧
      ∀ u v, (sums events).Pairwise (· ≤ ·) → (u ≤ v → u * total ≤ v * total) → u ≤ v →
        place events total u = Draw.bisect (sums events) (u * total) 0 (n - 1) ∧
        place events total v = Draw.bisect (sums events) (v * total) 0 (n - 1) ∧
        place events total u ≤ place events total v := by
  intro weighted n whole
  have positive := shares_pos summed finite
  have given := shares_ne_nil several
  refine ⟨?_, Draw.cutsUnit positive given, select_at_place summed finite several, ?_, ?_⟩
  · rw [shares, List.forall₂_map_right_iff, List.forall₂_same]
    exact fun e competes => isExactly_weight summed finite competes
  · intro u q drawn
    obtain ⟨falls, capped, uncapped⟩ := place_of_drawnExactly several positive drawn
    refine ⟨fun i within => ⟨falls i within, ?_⟩, capped, uncapped⟩
    rw [Draw.mem_part_iff (List.sum_pos _ positive given)]
    exact falls i within
  · intro u v sorted scaled most
    exact ⟨place_eq_bisect sorted total u, place_eq_bisect sorted total v,
      Draw.position_mono _ (scaled most)⟩

def weather : List Event :=
  [{ id := "fair", weight := 1 }, { id := "still" }, { id := "rain", weight := 3 }]

/-- A quarter is where the part of the rain begins. -/
theorem select_fair_weather :
    2 ≤ (weather.filter isWeighted).length ∧ total? weather = some 4 ∧ Float.isFinite 4 = true ∧
      DrawnExactly weather 4 0.25 (1 / 4) ∧ place weather 4 0.25 = 1 ∧
      (sums weather).Pairwise (· ≤ ·) ∧ (0.125 : Float) ≤ 0.25 ∧
      (0.125 * 4 : Float) ≤ 0.25 * 4 ∧ place weather 4 0.125 ≤ place weather 4 0.25 := by
  have several : 2 ≤ (weather.filter isWeighted).length := by decide +kernel
  have summed : total? weather = some 4 := by decide +kernel
  have finite : Float.isFinite 4 = true := by decide +kernel
  have drawn : DrawnExactly weather 4 0.25 (1 / 4) :=
    ⟨by decide +kernel, by norm_num, by norm_num, by decide +kernel, by decide +kernel⟩
  have sorted : (sums weather).Pairwise (· ≤ ·) := by decide +kernel
  have most : (0.125 : Float) ≤ 0.25 := by decide +kernel
  have scaled : (0.125 * 4 : Float) ≤ 0.25 * 4 := by decide +kernel
  obtain ⟨-, -, -, exact, greater⟩ := select_fair several summed finite
  have rains := ((exact 0.25 (1 / 4) drawn).1 1 (by decide +kernel)).1.2 (by decide +kernel)
  exact ⟨several, summed, finite, drawn, rains, sorted, most, scaled,
    (greater 0.125 0.25 sorted (fun _ => scaled) most).2.2⟩

end Event

end Gamebook
