import Gamebook.Proofs.Play.Outcome
import Gamebook.Proofs.Session.History

/-! The line that tells of a change of a counter.

A mutation has one line, and it is told unless a whole number in it has more digits than can be
written.
-/

set_option autoImplicit false

namespace Gamebook

theorem Value.isWritable_of_not_isTruthy {v : Value} (h : v.isTruthy = false) :
    v.isWritable = true := by
  cases v with
  | int n =>
    have zero : n = 0 := by simpa [isTruthy] using h
    simpa [isWritable, isWritableWithin, zero] using Text.numeralBound_pos
  | list items =>
    have empty : items = [] := by simpa [isTruthy] using h
    simp [isWritable, isWritableWithin, itemsWritable, empty]
  | mapping entries =>
    have empty : entries = [] := by simpa [isTruthy] using h
    simp [isWritable, isWritableWithin, entriesWritable, empty]
  | _ => rfl

theorem Value.toText_of_isWritable {v : Value} (h : v.isWritable = true) :
    v.toText = .ok v.display := by
  simp [toText, h]

theorem Value.toText_of_not_isWritable {v : Value} (h : v.isWritable = false) :
    v.toText = .error .badNumeral := by
  simp [toText, h]

namespace Mutation

def change (labels : Labels) (m : Mutation) : String :=
  labels.get m.counter ++ " " ++ (if m.delta < 0 then "" else "+") ++ toString m.delta

/-- The line of a mutation: its reason, if one is given, its label and its signed delta; good when
it adds, bad when it takes. -/
def line (labels : Labels) (m : Mutation) : Line where
  text := .text ((if m.reason.isTruthy then m.reason.display ++ ": " else "") ++ m.change labels)
  types :=
    "value-mutation" :: if 0 < m.delta then ["good"] else if m.delta < 0 then ["bad"] else []

def isWritable (m : Mutation) : Bool :=
  (Value.int m.delta).isWritable && m.reason.isWritable

end Mutation

namespace Game

theorem signed_of_isWritable {n : Int} (h : (Value.int n).isWritable = true) :
    signed n = .ok ((if n < 0 then "" else "+") ++ toString n) := by
  have display : (Value.int n).display = toString n := by
    simp [Value.display, Value.literal, Value.literalWithin]
  unfold signed
  rw [Value.toText_of_isWritable h, display]
  by_cases negative : n < 0 <;> simp [negative, bind, Except.bind, pure, Except.pure]

theorem signed_of_not_isWritable {n : Int} (h : (Value.int n).isWritable = false) :
    signed n = .error .badNumeral := by
  unfold signed
  rw [Value.toText_of_not_isWritable h]
  rfl

theorem reportText_of_isWritable (labels : Labels) {m : Mutation} (h : m.isWritable = true) :
    reportText labels m =
      .ok ((if m.reason.isTruthy then m.reason.display ++ ": " else "") ++ m.change labels) := by
  obtain ⟨delta, reason⟩ := Bool.and_eq_true_iff.1 h
  unfold reportText
  rw [signed_of_isWritable delta, Value.toText_of_isWritable reason]
  by_cases given : m.reason.isTruthy = true <;>
    simp [given, bind, Except.bind, pure, Except.pure, Mutation.change, String.append_assoc]

theorem reportText_of_not_isWritable (labels : Labels) {m : Mutation} (h : m.isWritable = false) :
    reportText labels m = .error .badNumeral := by
  unfold reportText
  cases delta : (Value.int m.delta).isWritable with
  | false =>
    rw [signed_of_not_isWritable delta]
    rfl
  | true =>
    have reason : m.reason.isWritable = false := by simpa [Mutation.isWritable, delta] using h
    have given : m.reason.isTruthy = true := by
      cases left : m.reason.isTruthy with
      | true => rfl
      | false =>
        -- a reason that is left out can always be written
        rw [Value.isWritable_of_not_isTruthy left] at reason
        cases reason
    -- the sign is made out first, so the reason is what fails
    rw [signed_of_isWritable delta, Value.toText_of_not_isWritable reason]
    simp [given, bind, Except.bind]

theorem line_of_isWritable (labels : Labels) (m : Mutation) :
    Line.of (.text ((if m.reason.isTruthy then m.reason.display ++ ": " else "") ++
      m.change labels)) (reportTypes m) = m.line labels := by
  unfold Line.of Mutation.line reportTypes
  by_cases good : 0 < m.delta
  · simp [good, LineType.name]
  · by_cases bad : m.delta < 0 <;> simp [good, bad, LineType.name]

theorem report_eq (g : Game) (labels : Labels) (m : Mutation) :
    g.report labels m =
      if m.isWritable then .ok ((g.write (m.line labels)).record (.reported m (m.line labels)))
      else .error .badNumeral := by
  unfold report
  cases writable : m.isWritable with
  | false =>
    rw [reportText_of_not_isWritable labels writable]
    rfl
  | true =>
    rw [reportText_of_isWritable labels writable]
    change Except.ok _ = Except.ok _
    rw [line_of_isWritable]

theorem grows_report (g : Game) (labels : Labels) (m : Mutation) :
    g.Grows [.reported m (m.line labels)]
      ((g.write (m.line labels)).record (.reported m (m.line labels))) :=
  ⟨rfl, rfl, rfl, rfl, rfl, rfl⟩

end Game

namespace Play

/-- A change of a counter is refused, or made and told, or made without being told. -/
theorem outcome_mutate (s : Setting) (key delta reason : Value) (w : World) :
    outcome (mutate s key delta reason) w =
      match w.game.mutate key delta reason with
      | .error fault => (.error (.fault fault), w)
      | .ok (m, g) =>
        let line := m.line s.config.text.labels
        if m.isWritable then
          (.ok (), { w with game := (g.write line).record (.reported m line) })
        else (.error (.fault .badNumeral), { w with game := g }) := by
  rw [mutate, outcome_game_bind]
  cases w.game.mutate key delta reason with
  | error fault => rfl
  | ok answer =>
    obtain ⟨m, g⟩ := answer
    rw [liftFault_ok, pure_bind]
    dsimp only
    rw [outcome_update_bind, outcome_attempt, Game.report_eq]
    by_cases writable : m.isWritable = true
    · simp only [if_pos writable]
    · simp only [if_neg writable]

end Play

end Gamebook
