import Gamebook.Proofs.Session.Run

/-! What the log tells of the counters.

A counter is what it was at first and all that has been added to it since. The log has one line for
each change, where it was made, except for changes that cannot be written: these are made, and stop
the run that makes them.
-/

set_option autoImplicit false

namespace Gamebook

namespace Happening

def tally (counter : Counter) (history : List Happening) : Int :=
  ((history.filterMap mutation?).filter (·.counter == counter)).foldr (·.delta + ·) 0

/-- The lines of the log that a happening accounts for. A change of a counter accounts for its
line. -/
def lines (labels : Labels) : Happening → List Line
  | .said line => [line]
  | .mutated m => if m.isWritable then [m.line labels] else []
  | _ => []

variable {counter : Counter}

theorem tally_of_mutation?_eq_none {h : Happening} (other : h.mutation? = none)
    (rest : List Happening) : tally counter (h :: rest) = tally counter rest := by
  simp [tally, other]

theorem tally_mutated (m : Mutation) (rest : List Happening) :
    tally counter (.mutated m :: rest) =
      (if m.counter = counter then m.delta else 0) + tally counter rest := by
  unfold tally
  by_cases own : m.counter = counter <;> simp [mutation?, own]

end Happening

open Happening

namespace State

theorem status_after {state : State} {h : Happening} (other : h.mutation? = none) :
    (state.after h).status = state.status := by
  cases h with
  | mutated m => cases other
  | _ => rfl

theorem get_after_mutated (state : State) (m : Mutation) (counter : Counter) :
    (state.after (.mutated m)).status.get counter =
      state.status.get counter + if m.counter = counter then m.delta else 0 :=
  state.status.get_add m.counter counter m.delta

-- There is no floor and no ceiling: whatever has been added to a counter is in it.
theorem get_replay (state : State) (history : List Happening) (counter : Counter) :
    (state.replay history).status.get counter = state.status.get counter + tally counter history := by
  induction history generalizing state with
  | nil =>
    rw [replay_nil]
    exact (Int.add_zero _).symm
  | cons h rest ih =>
    rw [replay_cons, ih]
    cases change : h.mutation? with
    | none => rw [status_after change, tally_of_mutation?_eq_none change]
    | some m =>
      cases h with
      | mutated own => rw [get_after_mutated, tally_mutated, Int.add_assoc]
      | _ => cases change

end State

-- The lines of a chronicle are those that its happenings account for: a report follows right on its
-- change.
theorem Chronicle.log_eq {s : Setting} {state : State} {history : List Happening}
    (chronicle : Chronicle s state history) :
    history.filterMap line? = history.flatMap (lines s.config.text.labels) := by
  induction chronicle with
  | nil => rfl
  | @cons state h rest legal _ ih =>
    -- neither a change nor a report is legal alone, and all else accounts for its own line
    have alone : h.line?.toList = lines s.config.text.labels h := by
      cases h with
      | mutated m => cases legal
      | reported m line => cases legal
      | _ => rfl
    rw [List.flatMap_cons, ← alone, ← ih]
    cases line : h.line? <;> simp [line]
  | told writable _ ih =>
    rw [List.flatMap_cons, List.flatMap_cons, ← ih, lines, if_pos writable]
    rfl
  | untold unwritable _ ih =>
    rw [List.flatMap_cons, ← ih, lines, unwritable]
    rfl

namespace Setting

variable (s : Setting)

/-- Whatever is done with a session, and wherever it stops: a counter is its configured value and all
that has been added to it, and the log has one line for each change, in the order of the changes,
between the lines that were said. At any moment, a change is refused and nothing is done; or it is
made and its line is written, and if this line cannot be written the change stands and the call that
makes it stops. -/
theorem ledger (registry : Registry Routine) (dice : Dice) (operations : List Operation) :
    let game := (s.after (s.newWorld registry dice) operations).game
    (∀ counter, game.state.status.get counter =
        s.config.status.get counter + tally counter game.history) ∧
      game.screen.log = game.history.flatMap (lines s.config.text.labels) ∧
      ∀ (w : World) (key delta reason : Value),
        let (answer, v) := Play.outcome (Play.mutate s key delta reason) w
        match w.game.state.mutate key delta reason with
        | .error fault => answer = .error (.fault fault) ∧ v = w
        | .ok (m, state) =>
          answer = (if m.isWritable then .ok () else .error (.fault .badNumeral)) ∧
            v.game.state = state ∧
            v.game.history.filterMap mutation? = w.game.history.filterMap mutation? ++ [m] ∧
            v.game.screen.log = w.game.screen.log ++ lines s.config.text.labels (.mutated m) := by
  intro game
  obtain ⟨chronicle, grown⟩ := s.chronicle registry dice operations
  refine ⟨fun counter => ?_, ?_, fun w key delta reason => ?_⟩
  · rw [grown.state]
    exact State.get_replay _ _ counter
  · rw [← chronicle.log_eq]
    exact grown.log
  · rw [Play.outcome_mutate]
    unfold Game.mutate
    cases w.game.state.mutate key delta reason with
    | error fault => exact ⟨rfl, rfl⟩
    | ok change =>
      dsimp only [bind, Except.bind, pure, Except.pure]
      cases writable : change.1.isWritable with
      | true =>
        refine ⟨rfl, rfl, ?_, ?_⟩
        · simp [Game.record, Game.write, mutation?]
        · simp [Game.record, Game.write, lines, writable]
      | false =>
        refine ⟨rfl, rfl, ?_, ?_⟩
        · simp [Game.record, mutation?]
        · simp [Game.record, lines, writable]

def endlessReason : Operation :=
  { command := .mutate "hp" (.int 1) (.int Text.numeralBound) }

/-- A change whose reason has too many digits is made, and nothing tells of it. -/
theorem untold_change :
    let game := (twoTowns.after .twoTowns [endlessReason]).game
    game.state.status.hp = twoTowns.config.status.hp + 1 ∧
      (game.history.filterMap mutation?).length = 1 ∧ game.screen.log.length = 0 := by
  decide +kernel

end Setting

end Gamebook
