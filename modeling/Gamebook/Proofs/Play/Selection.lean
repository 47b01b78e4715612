import Gamebook.Draw

/-! Which event an arrival selects, and what this takes from the dice.

The positive weights alone decide, in their order. Two or more of them compete by one number; otherwise
no number is needed.
-/

set_option autoImplicit false

namespace Gamebook

namespace Dice

def skip (dice : Dice) : Nat → Dice
  | 0 => dice
  | n + 1 => (dice.skip n).next.2

/-- The number that is taken after `n` others. -/
def nth (dice : Dice) (n : Nat) : Float := (dice.skip n).next.1

theorem skip_add (dice : Dice) (m n : Nat) : dice.skip (m + n) = (dice.skip m).skip n := by
  induction n with
  | zero => rfl
  | succ n ih => exact congrArg (·.next.2) ih

-- Told numbers start over after the last.
example : ((ofList [0.25, 0.75]).nth 1, (ofList [0.25, 0.75]).nth 2) = (0.75, 0.25) := rfl

end Dice

namespace Draw

variable {α : Type} [Add α] [Mul α] [LT α] [DecidableLT α]

omit [Mul α] [LT α] [DecidableLT α] in
theorem length_sumsFrom (sum : α) (weights : List α) :
    (sumsFrom sum weights).length = weights.length := by
  induction weights generalizing sum with
  | nil => rfl
  | cons w rest ih => exact congrArg (· + 1) (ih (sum + w))

omit [Mul α] [LT α] [DecidableLT α] in
theorem length_runningSums (weights : List α) : (runningSums weights).length = weights.length := by
  cases weights with
  | nil => rfl
  | cons w rest => exact congrArg (· + 1) (length_sumsFrom w rest)

/-- A draw falls on one of the weights. -/
theorem pick_lt {weights : List α} (given : weights ≠ []) (total u : α) :
    pick weights total u < weights.length := by
  have among : pick weights total u ≤ (runningSums weights).dropLast.length := List.findIdx_le_length
  have positive := List.length_pos_iff.2 given
  rw [List.length_dropLast, length_runningSums] at among
  omega

end Draw

namespace Event

/-- A float that is not positive is at most zero, or no number. -/
theorem not_pos_iff (x : Float) : ¬0 < x ↔ x ≤ 0 ∨ x.isNaN = true := by
  have zero : (0 : Float).toModel.unpack = .zero .positive := rfl
  have less : 0 < x ↔ (Float.Model.UnpackedFloat.zero .positive).lt x.toModel.unpack = true := by
    rw [← zero]
    exact decide_eq_true_iff
  have most : x ≤ 0 ↔ x.toModel.unpack.le (.zero .positive) = true := by
    rw [← zero]
    exact decide_eq_true_iff
  change _ ↔ _ ∨ x.toModel.unpack.isNaN = true
  rw [less, most]
  cases x.toModel.unpack with
  | infinity sign => cases sign <;> decide
  | notANumber => decide
  | zero sign => cases sign <;> decide
  | finite sign mantissa exponent pos =>
    cases sign with
    | positive => exact ⟨fun not => absurd rfl not, fun either => either.elim nofun nofun⟩
    | negative => exact ⟨fun _ => .inl rfl, fun _ less => nomatch less⟩

theorem isWeighted_iff {e : Event} : e.isWeighted = true ↔ 0 < e.weight :=
  decide_eq_true_iff

def total? (events : List Event) : Option Float :=
  (Draw.runningSums ((events.filter isWeighted).map (·.weight))).getLast?

def hasFiniteTotal (events : List Event) : Bool := (total? events).all (·.isFinite)

def takesNumber (events : List Event) : Bool :=
  2 ≤ (events.filter isWeighted).length && hasFiniteTotal events

def atNumber (events : List Event) (u : Float) : Option Event :=
  let weighted := events.filter isWeighted
  (total? events).bind fun total => weighted[Draw.pick (weighted.map (·.weight)) total u]?

variable {events : List Event}

theorem ne_nil_of_several (several : 2 ≤ (events.filter isWeighted).length) :
    events.filter isWeighted ≠ [] :=
  List.ne_nil_of_length_pos (Nat.lt_of_lt_of_le Nat.zero_lt_two several)

theorem exists_total (weighty : events.filter isWeighted ≠ []) : ∃ total, total? events = some total := by
  have sums : Draw.runningSums ((events.filter isWeighted).map (·.weight)) ≠ [] := by
    apply List.ne_nil_of_length_pos
    rw [Draw.length_runningSums, List.length_map]
    exact List.length_pos_iff.2 weighty
  exact ⟨_, List.getLast?_eq_some_getLast sums⟩

theorem exists_atNumber (weighty : events.filter isWeighted ≠ []) (u : Float) :
    ∃ event, atNumber events u = some event ∧ event ∈ events ∧ 0 < event.weight := by
  obtain ⟨total, summed⟩ := exists_total weighty
  have given : (events.filter isWeighted).map (·.weight) ≠ [] := by simpa using weighty
  have within := Draw.pick_lt given total u
  rw [List.length_map] at within
  obtain ⟨event, drawn⟩ : ∃ event, atNumber events u = some event := by
    unfold atNumber
    rw [summed]
    exact ⟨_, List.getElem?_eq_getElem within⟩
  refine ⟨event, drawn, ?_⟩
  obtain ⟨_, -, there⟩ := Option.bind_eq_some_iff.1 drawn
  obtain ⟨among, weighted⟩ := List.mem_filter.1 (List.mem_of_getElem? there)
  exact ⟨among, isWeighted_iff.1 weighted⟩

theorem select_of_none (none : events.filter isWeighted = []) (dice : Dice) :
    select events dice = .ok (if events.length = 1 then events.head? else Option.none, dice) := by
  unfold select
  rw [none]
  match events with
  | [] => rfl
  | [_] => rfl
  | _ :: _ :: rest => rw [if_neg (by simp)]

theorem select_of_one {event : Event} (one : events.filter isWeighted = [event]) (dice : Dice) :
    select events dice = .ok (some event, dice) := by
  unfold select
  rw [one]

/-- Where two or more positive weights compete, the next number of the dice selects, if they have a finite
sum. -/
theorem select_of_several (several : 2 ≤ (events.filter isWeighted).length) (dice : Dice) :
    select events dice =
      if hasFiniteTotal events then .ok (atNumber events dice.next.1, dice.next.2)
      else .error .unboundedWeights := by
  have weighty := ne_nil_of_several several
  obtain ⟨total, summed⟩ := exists_total weighty
  unfold hasFiniteTotal atNumber
  rw [summed]
  unfold total? at summed
  unfold select
  match weighted : events.filter isWeighted with
  | [] => exact absurd weighted weighty
  | [_] => simp [weighted] at several
  | first :: second :: rest =>
    rw [weighted] at summed
    dsimp only
    rw [summed]
    rfl

theorem select_of_takesNumber (takes : takesNumber events = true) (dice : Dice) :
    select events dice = .ok (atNumber events dice.next.1, dice.next.2) := by
  obtain ⟨several, finite⟩ := Bool.and_eq_true_iff.1 takes
  rw [select_of_several (of_decide_eq_true several), if_pos finite]

theorem select_of_not_takesNumber (takes : takesNumber events = false) :
    (∃ event?, ∀ dice, select events dice = .ok (event?, dice)) ∨
      ∀ dice, select events dice = .error .unboundedWeights := by
  match weighted : events.filter isWeighted with
  | [] => exact .inl ⟨_, select_of_none weighted⟩
  | [_] => exact .inl ⟨_, select_of_one weighted⟩
  | first :: second :: rest =>
    have several : 2 ≤ (events.filter isWeighted).length := by simp [weighted]
    have infinite : ¬hasFiniteTotal events = true := by
      intro finite
      rw [takesNumber, finite, decide_eq_true several] at takes
      cases takes
    right
    intro dice
    rw [select_of_several several, if_neg infinite]

theorem dice_of_select_none {dice dice' : Dice} (selected : select events dice = .ok (none, dice')) :
    dice' = dice := by
  cases takes : takesNumber events with
  | true =>
    obtain ⟨several, -⟩ := Bool.and_eq_true_iff.1 takes
    have weighty := ne_nil_of_several (of_decide_eq_true several)
    obtain ⟨event, drawn, -⟩ := exists_atNumber weighty dice.next.1
    rw [select_of_takesNumber takes, drawn] at selected
    cases selected
  | false =>
    rcases select_of_not_takesNumber takes with ⟨event?, selects⟩ | unbounded
    · rw [selects dice] at selected
      cases selected
      rfl
    · rw [unbounded dice] at selected
      cases selected

/-- Events that do not compete change nothing, as long as another one does. -/
theorem select_insert {before idle after : List Event}
    (weighty : (before ++ after).filter isWeighted ≠ []) (weightless : ∀ e ∈ idle, ¬0 < e.weight)
    (dice : Dice) :
    select (before ++ idle ++ after) dice = select (before ++ after) dice := by
  have gone : idle.filter isWeighted = [] :=
    List.filter_eq_nil_iff.2 fun e member weighted => weightless e member (isWeighted_iff.1 weighted)
  have same : (before ++ idle ++ after).filter isWeighted = (before ++ after).filter isWeighted := by
    rw [List.filter_append, List.filter_append, List.filter_append, gone, List.append_nil]
  unfold select
  rw [same]
  match weighted : (before ++ after).filter isWeighted with
  | [] => exact absurd weighted weighty
  | [_] => rfl
  | _ :: _ :: _ => rfl

/-- Where some weight is positive, an event of positive weight is selected, with one number if others of
positive weight compete with it, and with none if not. -/
theorem exists_select_positive (finite : hasFiniteTotal events = true)
    (weighty : events.filter isWeighted ≠ []) (dice : Dice) :
    ∃ event ∈ events, 0 < event.weight ∧
      select events dice =
        .ok (some event, dice.skip (if 2 ≤ (events.filter isWeighted).length then 1 else 0)) := by
  by_cases several : 2 ≤ (events.filter isWeighted).length
  · obtain ⟨event, drawn, among, positive⟩ := exists_atNumber weighty dice.next.1
    refine ⟨event, among, positive, ?_⟩
    rw [select_of_several several, if_pos finite, drawn, if_pos several]
    rfl
  · obtain ⟨event, one⟩ : ∃ event, events.filter isWeighted = [event] := by
      have positive := List.length_pos_iff.2 weighty
      exact List.length_eq_one_iff.1 (by omega)
    have member : event ∈ events.filter isWeighted := by simp [one]
    obtain ⟨among, weighted⟩ := List.mem_filter.1 member
    refine ⟨event, among, isWeighted_iff.1 weighted, ?_⟩
    rw [select_of_one one, if_neg several]
    rfl

end Event

end Gamebook
