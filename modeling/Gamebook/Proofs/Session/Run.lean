import Gamebook.Proofs.Session.Chronicle

/-! Runs of a session: operations one after the other, on what each one leaves.

The main statement is `Setting.chronicle`: whatever is done with a fresh session, and wherever it
stops, its history is a chronicle from its first state and tells what it has become.
-/

set_option autoImplicit false

namespace Gamebook

/-- An operation on a session, and the depth to which its actions may dispatch actions. -/
structure Operation where
  command : Command
  depth : Nat := Play.maxDepth

def Operation.outcome (s : Setting) (o : Operation) (w : World) : Except Stop Play.Reply × World :=
  Play.outcome (Play.within s o.depth o.command) w

namespace Setting

variable (s : Setting)

def newWorld (registry : Registry Routine) (dice : Dice) : World :=
  ⟨registry, s.newGame dice⟩

/-- The world that operations leave. One that stops leaves what it has done before. -/
def after (w : World) : List Operation → World
  | [] => w
  | o :: rest => after (o.outcome s w).2 rest

def goesWell (w : World) : List Operation → Bool
  | [] => true
  | o :: rest => (o.outcome s w).1.isOk && goesWell (o.outcome s w).2 rest

theorem after_append (w : World) (first rest : List Operation) :
    s.after w (first ++ rest) = s.after (s.after w first) rest := by
  induction first generalizing w with
  | nil => rfl
  | cons o first ih => exact ih _

theorem unfolds_outcome (o : Operation) (w : World) : Unfolds s w none (o.outcome s w).2 :=
  (Unfolds.law s).within o.depth o.command w

theorem unfolds_after (w : World) (operations : List Operation) :
    Unfolds s w none (s.after w operations) := by
  induction operations generalizing w with
  | nil => exact (Unfolds.composes s).still w
  | cons o rest ih => exact (Unfolds.composes s).trans (s.unfolds_outcome o w) (ih _)

theorem history_prefix (w : World) (operations : List Operation) :
    w.game.history <+: (s.after w operations).game.history := by
  obtain ⟨between, -, grown⟩ := s.unfolds_after w operations
  exact ⟨between, grown.history.symm⟩

/-- The history of a session is a chronicle from its first state, and tells what it has become. -/
theorem chronicle (registry : Registry Routine) (dice : Dice) (operations : List Operation) :
    let game := (s.after (s.newWorld registry dice) operations).game
    Chronicle s (s.newGame dice).state game.history ∧
      (s.newGame dice).Grows game.history game := by
  obtain ⟨between, chronicle, grown⟩ := s.unfolds_after (s.newWorld registry dice) operations
  have whole : (s.after (s.newWorld registry dice) operations).game.history = between :=
    grown.history
  dsimp only
  rw [whole]
  exact ⟨chronicle, grown⟩

theorem of_eq_ok {source : Source} {config : Config} {cost : Option CostPolicy} {s : Setting}
    (ready : Setting.of source config cost = .ok s) :
    s.script = source.script ∧ s.config = config ∧ s.knowsRegistry = source.knowsRegistry ∧
      (∃ site, s.script.findSite? s.script.entry.site = some site) ∧
      (cost = some s.cost ∨ cost = none ∧ CostPolicy.ofConfig config.travel = .ok s.cost) := by
  unfold Setting.of Script.entrySite at ready
  cases entry : source.script.findSite? source.script.entry.site with
  | none => rw [entry] at ready; cases ready
  | some site =>
    rw [entry] at ready
    cases cost with
    | some policy =>
      cases ready
      exact ⟨rfl, rfl, rfl, ⟨site, entry⟩, .inl rfl⟩
    | none =>
      cases named : CostPolicy.ofConfig config.travel with
      | error fault => simp only [named] at ready; cases ready
      | ok policy =>
        simp only [named] at ready
        cases ready
        exact ⟨rfl, rfl, rfl, ⟨site, entry⟩, .inr ⟨rfl, rfl⟩⟩

end Setting

def Script.twoTowns : Script where
  sites := [
    { id := "ford", name := "Ford", exits := [{ target := "mill" }] },
    { id := "mill", name := "Mill"
      exits := [{ target := "ford" }, { name := "Rest", action := some (.named "rest") }] }]
  events := []
  entry := { site := "ford" }

def Setting.twoTowns : Setting where
  script := .twoTowns
  cost := .flat 1 10

def World.twoTowns : World :=
  Setting.twoTowns.newWorld .empty (.ofList [])

def Setting.twoTownsWalk : List Operation :=
  [{ command := .start }, { command := .choose 0 }]

end Gamebook
