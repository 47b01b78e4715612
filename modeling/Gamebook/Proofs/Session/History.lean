import Gamebook.Game.Session

/-! What a history tells of a session.

The state, the log, the panel and its revision are all told by what has happened: `Grows` says so of
two moments of a session, with what happened in between.
-/

set_option autoImplicit false

namespace Gamebook

namespace State

def after (state : State) : Happening → State
  | .moved site => state.setSite site
  | .passed days => { state with days := state.days + days }
  | .mutated m => { state with status := state.status.add m.counter m.delta }
  | _ => state

def replay (state : State) (history : List Happening) : State :=
  history.foldl after state

@[simp] theorem replay_nil (state : State) : state.replay [] = state := rfl

@[simp] theorem replay_cons (state : State) (h : Happening) (rest : List Happening) :
    state.replay (h :: rest) = (state.after h).replay rest := rfl

theorem replay_append (state : State) (first rest : List Happening) :
    state.replay (first ++ rest) = (state.replay first).replay rest := by
  simp [replay]

end State

namespace Happening

def line? : Happening → Option Line
  | .said line | .reported _ line => some line
  | _ => none

def mutation? : Happening → Option Mutation
  | .mutated m => some m
  | _ => none

def report? : Happening → Option Mutation
  | .reported m _ => some m
  | _ => none

def offer? : Happening → Option (Origin × List Choice)
  | .offered origin choices => some (origin, choices)
  | _ => none

def isMove : Happening → Bool
  | .moved _ => true
  | _ => false

def isCaught : Happening → Bool
  | .caught _ => true
  | _ => false

/-- The options offered last in a history, else those of before. -/
def panelAfter (panel : List Choice) (history : List Happening) : List Choice :=
  ((history.filterMap offer?).getLast?.map Prod.snd).getD panel

theorem panelAfter_append (panel : List Choice) (first rest : List Happening) :
    panelAfter panel (first ++ rest) = panelAfter (panelAfter panel first) rest := by
  unfold panelAfter
  rw [List.filterMap_append, List.getLast?_append]
  cases (rest.filterMap offer?).getLast? <;> simp

end Happening

/-- One moment of a session follows another, with what happened in between. -/
structure Game.Grows (g : Game) (between : List Happening) (g' : Game) : Prop where
  history : g'.history = g.history ++ between
  state : g'.state = g.state.replay between
  log : g'.screen.log = g.screen.log ++ between.filterMap Happening.line?
  panel : g'.panel = Happening.panelAfter g.panel between
  options : g'.screen.options = Happening.panelAfter g.screen.options between
  revision : g'.revision = g.revision + (between.filterMap Happening.offer?).length

namespace Game

theorem Grows.refl (g : Game) : g.Grows [] g :=
  ⟨by simp, rfl, by simp, rfl, rfl, rfl⟩

theorem Grows.trans {a b c : Game} {first rest : List Happening} (early : a.Grows first b)
    (late : b.Grows rest c) : a.Grows (first ++ rest) c where
  history := by rw [late.history, early.history, List.append_assoc]
  state := by rw [late.state, early.state, State.replay_append]
  log := by rw [late.log, early.log, List.filterMap_append, List.append_assoc]
  panel := by rw [late.panel, early.panel, Happening.panelAfter_append]
  options := by rw [late.options, early.options, Happening.panelAfter_append]
  revision := by
    rw [late.revision, early.revision, List.filterMap_append, List.length_append, Nat.add_assoc]

variable (g : Game)

theorem grows_say (text : Value) (types : List String) :
    g.Grows [.said (.of text types)] (g.say text types) :=
  ⟨rfl, rfl, rfl, rfl, rfl, rfl⟩

theorem grows_offer (origin : Origin) (choices : List Choice) :
    g.Grows [.offered origin choices] (g.offer origin choices) :=
  ⟨rfl, rfl, by simp [offer, record, Happening.line?], rfl, rfl, rfl⟩

theorem grows_showState : g.Grows [.shown g.state] g.showState :=
  ⟨rfl, rfl, by simp [showState, record, Happening.line?], rfl, rfl, rfl⟩

theorem grows_moveTo (site : String) : g.Grows [.moved site] (g.moveTo site) :=
  ⟨rfl, rfl, by simp [moveTo, record, Happening.line?], rfl, rfl, rfl⟩

-- Selecting the event of an arrival draws, and draws are not told.
theorem grows_arrived (site : String) (dice : Dice) :
    g.Grows [.arrived site] { g.record (.arrived site) with dice } :=
  ⟨rfl, rfl, by simp [record, Happening.line?], rfl, rfl, rfl⟩

theorem grows_caught (fault : Fault) : g.Grows [.caught fault] (g.record (.caught fault)) :=
  ⟨rfl, rfl, by simp [record, Happening.line?], rfl, rfl, rfl⟩

theorem grows_pass {days : Int} {g' : Game} (passed : g.pass days = .ok g') :
    0 ≤ days ∧ g.Grows [.passed days] g' := by
  unfold pass State.advance at passed
  split at passed
  · cases passed
  · cases passed
    exact ⟨by omega, rfl, rfl, by simp [record, Happening.line?], rfl, rfl, rfl⟩

theorem grows_mutate {key delta reason : Value} {m : Mutation} {g' : Game}
    (mutated : g.mutate key delta reason = .ok (m, g')) : g.Grows [.mutated m] g' := by
  unfold mutate State.mutate at mutated
  cases read : Counter.read key with
  | error fault => rw [read] at mutated; cases mutated
  | ok counter =>
    cases whole : State.readDelta delta with
    | error fault => rw [read, whole] at mutated; cases mutated
    | ok n =>
      rw [read, whole] at mutated
      cases mutated
      exact ⟨rfl, rfl, by simp [record, Happening.line?], rfl, rfl, rfl⟩

end Game

end Gamebook
