import Gamebook.Proofs.Session.Run
import Gamebook.Proofs.Traversal

/-! Where a session is, and on which day.

A state is sound when its site is listed in the script and no day before the first one is shown.
Each happening leads from a sound state to a sound one, never back in time, so the same holds of any
two moments of a history.
-/

set_option autoImplicit false

namespace Gamebook

theorem Config.startingDay_nonneg {settings : Value} {config : Config}
    (accepted : Config.read settings = .ok config) : 0 ≤ config.startingDay := by
  unfold Config.read at accepted
  obtain ⟨entries, _, accepted⟩ := bind_eq_ok accepted
  obtain ⟨player, _, accepted⟩ := bind_eq_ok accepted
  obtain ⟨statusEntries, _, accepted⟩ := bind_eq_ok accepted
  obtain ⟨status, _, accepted⟩ := bind_eq_ok accepted
  obtain ⟨startingDay, _, accepted⟩ := bind_eq_ok accepted
  by_cases negative : startingDay < 0
  · rw [if_pos negative] at accepted
    cases accepted
  · rw [if_neg negative] at accepted
    obtain ⟨random, _, accepted⟩ := bind_eq_ok accepted
    obtain ⟨travel, _, accepted⟩ := bind_eq_ok accepted
    obtain ⟨text, _, accepted⟩ := bind_eq_ok accepted
    -- what is read after the day leaves it as it is
    have kept : config.startingDay = startingDay := by
      split at accepted
      · cases accepted
        rfl
      · obtain ⟨seed, _, accepted⟩ := bind_eq_ok accepted
        cases accepted
        rfl
    omega

namespace State

/-- The site of the state is listed, and its day is none before the first. -/
structure Stands (s : Setting) (state : State) : Prop where
  listed : ∃ site ∈ s.script.sites, site.id = state.site
  day : s.config.startingDay ≤ state.days

/-- A later state stands if an earlier one does, and is not before it. -/
structure Precedes (s : Setting) (state later : State) : Prop where
  stands : state.Stands s → later.Stands s
  days : state.days ≤ later.days

variable {s : Setting}

theorem Precedes.refl (state : State) : state.Precedes s state :=
  ⟨id, Int.le_refl _⟩

theorem Precedes.trans {a b c : State} (early : a.Precedes s b) (late : b.Precedes s c) :
    a.Precedes s c :=
  ⟨late.stands ∘ early.stands, Int.le_trans early.days late.days⟩

theorem precedes_moved {state : State} {site : Site}
    (found : s.script.findSite? site.id = some site) : state.Precedes s (state.setSite site.id) where
  stands stands := ⟨⟨site, Script.mem_of_findSite? found, rfl⟩, stands.day⟩
  days := Int.le_refl _

theorem precedes_passed {state : State} {days : Int} (forward : 0 ≤ days) :
    state.Precedes s { state with days := state.days + days } := by
  have later : state.days ≤ state.days + days := by omega
  exact ⟨fun stands => ⟨stands.listed, Int.le_trans stands.day later⟩, later⟩

end State

namespace Chronicle

variable {s : Setting} {state : State}

theorem precedes_after {before rest : List Happening} {h : Happening}
    (chronicle : Chronicle s state (before ++ h :: rest)) :
    (state.replay before).Precedes s ((state.replay before).after h) := by
  cases h with
  | moved id =>
    obtain ⟨site, found⟩ := chronicle.legal_of_append rfl rfl
    have own : site.id = id := Script.id_of_findSite? found
    rw [← own] at found ⊢
    exact State.precedes_moved found
  | passed days => exact State.precedes_passed (chronicle.legal_of_append rfl rfl)
  -- the site and the day are what they were
  | mutated m => exact ⟨fun stands => ⟨stands.listed, stands.day⟩, Int.le_refl _⟩
  | _ => exact .refl _

theorem precedes_replay {first between rest : List Happening}
    (chronicle : Chronicle s state (first ++ between ++ rest)) :
    (state.replay first).Precedes s (state.replay (first ++ between)) := by
  induction between generalizing first with
  | nil =>
    rw [List.append_nil]
    exact .refl _
  | cons h between ih =>
    -- `h` is moved to the end of what went before
    have next : Chronicle s state ((first ++ [h]) ++ between ++ rest) := by
      simpa using chronicle
    have here : Chronicle s state (first ++ h :: (between ++ rest)) := by
      simpa using chronicle
    have onward := ih next
    rw [State.replay_append] at onward
    have step : (state.replay first).Precedes s ((state.replay first).replay [h]) :=
      here.precedes_after
    simpa using step.trans onward

end Chronicle

namespace Setting

theorem stands_newGame {source : Source} {config : Config} {cost : Option CostPolicy} {s : Setting}
    (ready : Setting.of source config cost = .ok s) (dice : Dice) :
    (s.newGame dice).state.Stands s := by
  obtain ⟨-, -, -, ⟨site, found⟩, -⟩ := of_eq_ok ready
  exact ⟨⟨site, Script.mem_of_findSite? found, Script.id_of_findSite? found⟩, Int.le_refl _⟩

/-- Whatever is done with a session, and wherever it stops: at every moment of its history the
protagonist is at a site of the script, on no day before the first, which is not negative, and at no
later moment on an earlier day. -/
theorem whereabouts {settings : Value} {source : Source} {config : Config}
    {cost : Option CostPolicy} {s : Setting} (accepted : Config.read settings = .ok config)
    (ready : Setting.of source config cost = .ok s) (registry : Registry Routine) (dice : Dice)
    (operations further : List Operation) :
    let start := (s.newGame dice).state
    let game := (s.after (s.newWorld registry dice) operations).game
    let later := (s.after (s.newWorld registry dice) (operations ++ further)).game
    game.state = start.replay game.history ∧ game.history <+: later.history ∧
      (∀ moment, moment <+: game.history →
        (∃ site ∈ source.script.sites, site.id = (start.replay moment).site) ∧
          0 ≤ config.startingDay ∧ config.startingDay ≤ (start.replay moment).days) ∧
      (∀ earlier moment, earlier <+: moment → moment <+: game.history →
        (start.replay earlier).days ≤ (start.replay moment).days) ∧
      game.state.days ≤ later.state.days := by
  intro start game later
  obtain ⟨chronicle, grown⟩ := s.chronicle registry dice operations
  obtain ⟨extended, grows⟩ := s.chronicle registry dice (operations ++ further)
  obtain ⟨script, configured, -⟩ := of_eq_ok ready
  have longer : game.history <+: later.history := by
    have := s.history_prefix (s.after (s.newWorld registry dice) operations) further
    rw [← s.after_append] at this
    exact this
  refine ⟨grown.state, longer, ?_, ?_, ?_⟩
  · rintro moment ⟨rest, whole⟩
    have whole : Chronicle s start ([] ++ moment ++ rest) := by
      rw [List.nil_append, whole]
      exact chronicle
    have stands : (start.replay moment).Stands s :=
      whole.precedes_replay.stands (stands_newGame ready dice)
    rw [← script, ← configured]
    exact ⟨stands.listed, configured ▸ Config.startingDay_nonneg accepted, stands.day⟩
  · rintro earlier moment ⟨between, rfl⟩ ⟨rest, whole⟩
    rw [← whole] at chronicle
    exact chronicle.precedes_replay.days
  · obtain ⟨rest, whole⟩ := longer
    have ends : later.state = start.replay (game.history ++ rest) := by
      rw [whole]
      exact grows.state
    rw [grown.state, ends]
    rw [← whole, ← List.append_nil (_ ++ rest)] at extended
    exact extended.precedes_replay.days

theorem whereabouts_twoTowns :
    Config.read .null = .ok {} ∧
      Setting.of (.of .twoTowns Routine.builtin) {} none = .ok twoTowns ∧
      let game := (twoTowns.after .twoTowns twoTownsWalk).game
      let later := (twoTowns.after .twoTowns (twoTownsWalk ++ [{ command := .choose 1 }])).game
      game.history <+: later.history ∧ game.state.days ≤ later.state.days ∧
        ∃ site ∈ Script.twoTowns.sites, site.id = game.state.site := by
  have accepted : Config.read .null = .ok {} := rfl
  have ready : Setting.of (.of .twoTowns Routine.builtin) {} none = .ok twoTowns := rfl
  unfold World.twoTowns
  obtain ⟨replayed, longer, stands, -, days⟩ := whereabouts accepted ready .empty
    (.ofList []) twoTownsWalk [{ command := .choose 1 }]
  refine ⟨accepted, ready, longer, days, ?_⟩
  rw [replayed]
  exact (stands _ (List.prefix_refl _)).1

end Setting

end Gamebook
