import Gamebook.Proofs.Play.Law
import Gamebook.Proofs.Play.Panel
import Gamebook.Proofs.Session.Report

/-! What the history of a session can be.

`Chronicle` says it happening by happening, and `Unfolds` that one world leads to another by such a
history. Every run unfolds, however it ends; what holds of every history then holds of every session.
-/

set_option autoImplicit false

namespace Gamebook

open Play

/-- What a happening promises in the state in which it happens. Changes of counters and their
reports come in pairs, and promise nothing alone. -/
def Happening.Legal (s : Setting) (state : State) : Happening → Prop
  | .moved id => ∃ site, s.script.findSite? id = some site
  | .passed days => 0 ≤ days
  | .offered (.exits id) choices =>
    id = state.site ∧ ∃ site, s.script.findSite? id = some site ∧ menu s state site = .ok choices
  | .shown seen => seen = state
  | .mutated _ | .reported _ _ => False
  | _ => True

/-- A history that can follow on a state. A change of a counter is told at once, unless it cannot be
written. -/
inductive Chronicle (s : Setting) : State → List Happening → Prop where
  | nil (state : State) : Chronicle s state []
  | cons {state : State} {h : Happening} {rest : List Happening} (legal : h.Legal s state)
      (later : Chronicle s (state.after h) rest) : Chronicle s state (h :: rest)
  | told {state : State} {m : Mutation} {rest : List Happening} (writable : m.isWritable = true)
      (later : Chronicle s (state.after (.mutated m)) rest) :
      Chronicle s state (.mutated m :: .reported m (m.line s.config.text.labels) :: rest)
  | untold {state : State} {m : Mutation} {rest : List Happening}
      (unwritable : m.isWritable = false) (later : Chronicle s (state.after (.mutated m)) rest) :
      Chronicle s state (.mutated m :: rest)

namespace Chronicle

variable {s : Setting} {state : State}

theorem append {first rest : List Happening} (early : Chronicle s state first)
    (late : Chronicle s (state.replay first) rest) : Chronicle s state (first ++ rest) := by
  induction early with
  | nil => exact late
  | cons legal _ ih => exact .cons legal (ih late)
  | told writable _ ih => exact .told writable (ih late)
  | untold unwritable _ ih => exact .untold unwritable (ih late)

/-- What a happening promises holds in the state that the history before it tells. -/
theorem legal_of_append {before after : List Happening} {h : Happening}
    (chronicle : Chronicle s state (before ++ h :: after)) (other : h.mutation? = none)
    (apart : h.report? = none) : h.Legal s (state.replay before) := by
  generalize whole : before ++ h :: after = history at chronicle
  induction chronicle generalizing before with
  | nil => simp at whole
  | cons legal _ ih =>
    cases before with
    | nil =>
      obtain ⟨rfl, -⟩ := List.cons.inj whole
      exact legal
    | cons head before =>
      obtain ⟨rfl, rest⟩ := List.cons.inj whole
      exact ih rest
  | told _ _ ih =>
    -- the pair is passed over as one, so `h` stands behind both
    match before, whole with
    | [], whole =>
      obtain ⟨rfl, -⟩ := List.cons.inj whole
      cases other
    | [_], whole =>
      simp only [List.cons_append, List.nil_append, List.cons.injEq] at whole
      obtain ⟨-, rfl, -⟩ := whole
      cases apart
    | _ :: _ :: _, whole =>
      simp only [List.cons_append, List.cons.injEq] at whole
      obtain ⟨rfl, rfl, rest⟩ := whole
      have later := ih rest
      exact later
  | untold _ _ ih =>
    cases before with
    | nil =>
      obtain ⟨rfl, -⟩ := List.cons.inj whole
      cases other
    | cons head before =>
      obtain ⟨rfl, rest⟩ := List.cons.inj whole
      exact ih rest

end Chronicle

/-- A world leads to another, with a history in between. -/
def Unfolds (s : Setting) (w : World) (_ : Option Stop) (v : World) : Prop :=
  ∃ between, Chronicle s w.game.state between ∧ w.game.Grows between v.game

/-- A world leads to another without a change of site. -/
def Stays (s : Setting) (w : World) (_ : Option Stop) (v : World) : Prop :=
  ∃ between, Chronicle s w.game.state between ∧ w.game.Grows between v.game ∧
    ∀ h ∈ between, h.isMove = false

theorem Stays.unfolds {s : Setting} (w : World) (stop : Option Stop) (v : World)
    (stays : Stays s w stop v) : Unfolds s w stop v := by
  obtain ⟨between, chronicle, grown, -⟩ := stays
  exact ⟨between, chronicle, grown⟩

namespace Stays

variable {s : Setting}

theorem stop (w : World) (stop : Option Stop) : Stays s w stop w :=
  ⟨[], .nil _, .refl _, by simp⟩

theorem one {w v : World} {stop : Option Stop} (h : Happening) (legal : h.Legal s w.game.state)
    (grows : w.game.Grows [h] v.game) (still : h.isMove = false) : Stays s w stop v :=
  ⟨[h], .cons legal (.nil _), grows, by simpa using still⟩

theorem caught (w : World) (fault : Fault) :
    Stays s w none { w with game := w.game.record (.caught fault) } :=
  one (.caught fault) trivial (w.game.grows_caught fault) rfl

theorem trans {u v w : World} {ended stop : Option Stop} (first : Stays s u ended v)
    (second : Stays s v stop w) : Stays s u stop w := by
  obtain ⟨first, early, grown, still⟩ := first
  obtain ⟨rest, late, grows, stays⟩ := second
  rw [grown.state] at late
  refine ⟨first ++ rest, early.append late, grown.trans grows, fun h member => ?_⟩
  rcases List.mem_append.1 member with member | member
  · exact still h member
  · exact stays h member

theorem composes (s : Setting) : Composes (Stays s) where
  still w := stop w none
  trans := trans
  caught fault first := first.trans (caught _ fault)

theorem liftFault {α : Type} (x : Except Fault α) : Obeys (Stays s) (liftFault x) := by
  cases x with
  | ok a => exact (composes s).pure a
  | error fault => exact fun w => stop w _

theorem say (text : Value) (types : List String) : Obeys (Stays s) (say text types) :=
  fun w => one (.said (.of text types)) trivial (w.game.grows_say text types) rfl

theorem offer (choices : List Choice) : Obeys (Stays s) (offer s .given choices) := by
  intro w
  unfold Heeds
  rw [outcome_offer]
  cases choices.mapM (fillChoice s w.game.state) with
  | error fault => exact stop w _
  | ok filled => exact one (.offered .given filled) trivial (w.game.grows_offer _ _) rfl

theorem offerExits : Obeys (Stays s) (offerExits s) := by
  intro w
  unfold Heeds
  rw [outcome_offerExits]
  cases here : s.script.findSite? w.game.state.site with
  | none => exact stop w _
  | some site =>
    dsimp only
    cases listed : menu s w.game.state site with
    | error fault => exact stop w _
    | ok choices =>
      -- the menu is offered under the id that the script lists, which is where the state is
      have own : site.id = w.game.state.site := Script.id_of_findSite? here
      refine one (.offered (.exits site.id) choices) ⟨own, site, ?_, listed⟩
        (w.game.grows_offer _ _) rfl
      rw [own]
      exact here

theorem refresh (state options : Bool) : Obeys (Stays s) (refresh s state options) := by
  have shows : Obeys (Stays s) (update (·.showState)) := fun w =>
    one (.shown w.game.state) rfl w.game.grows_showState rfl
  exact (composes s).seq ((composes s).onlyIf shows state) fun _ =>
    (composes s).onlyIf offerExits options

theorem mutate (key delta reason : Value) : Obeys (Stays s) (mutate s key delta reason) := by
  intro w
  unfold Heeds
  rw [outcome_mutate]
  cases changed : w.game.mutate key delta reason with
  | error fault => exact stop w _
  | ok answer =>
    obtain ⟨m, g⟩ := answer
    have grown := w.game.grows_mutate changed
    dsimp only
    by_cases writable : m.isWritable = true
    · rw [if_pos writable]
      exact ⟨_, .told writable (.nil _), grown.trans (g.grows_report s.config.text.labels m),
        by simp [Happening.isMove]⟩
    · rw [if_neg writable]
      exact ⟨_, .untold (by simpa using writable) (.nil _), grown, by simp [Happening.isMove]⟩

theorem pay (cost : Cost) : Obeys (Stays s) (pay s cost) := by
  have passes : Obeys (Stays s) (attempt (·.pass cost.days)) := by
    intro w
    unfold Heeds
    rw [outcome_attempt]
    cases passed : w.game.pass cost.days with
    | error fault => exact stop w _
    | ok g =>
      obtain ⟨forward, grown⟩ := w.game.grows_pass passed
      exact one (.passed cost.days) forward grown rfl
  exact (composes s).seq ((composes s).onlyIf passes _) fun _ =>
    (composes s).onlyIf (mutate _ _ _) _

theorem payLeg (departure : String) (arrival : Site) :
    Obeys (Stays s) (payLeg s departure arrival) :=
  (composes s).seq (liftFault _) fun departure => pay (s.cost departure arrival)

theorem draw (site : Site) : Obeys (Stays s) (draw site) := by
  intro w
  unfold Heeds
  rw [outcome_draw]
  cases Event.select site.events w.game.dice with
  | error fault => exact one (.arrived site.id) trivial (w.game.grows_arrived _ w.game.dice) rfl
  | ok answer => exact one (.arrived site.id) trivial (w.game.grows_arrived _ answer.2) rfl

theorem rules (s : Setting) : Rules s (Stays s) :=
  { composes s with
    stop := fun w _ => stop w _
    say, offer, mutate, refresh
    draw := fun site _ => draw site
    register := fun _ _ _ => ⟨[], .nil _, .refl _, by simp⟩ }

end Stays

namespace Unfolds

variable {s : Setting}

theorem trans {u v w : World} {ended stop : Option Stop} (first : Unfolds s u ended v)
    (second : Unfolds s v stop w) : Unfolds s u stop w := by
  obtain ⟨first, early, grown⟩ := first
  obtain ⟨rest, late, grows⟩ := second
  rw [grown.state] at late
  exact ⟨first ++ rest, early.append late, grown.trans grows⟩

theorem composes (s : Setting) : Composes (Unfolds s) where
  still _ := ⟨[], .nil _, .refl _⟩
  trans := trans
  caught fault first := first.trans ((Stays.caught _ fault).unfolds _ _ _)

theorem moveTo {site : Site} (listed : s.script.findSite? site.id = some site) :
    Obeys (Unfolds s) (update (·.moveTo site.id)) :=
  fun w => ⟨[.moved site.id], .cons ⟨site, listed⟩ (.nil _), w.game.grows_moveTo site.id⟩

theorem rules (s : Setting) : Rules s (Unfolds s) :=
  (Stays.rules s).weaken (composes s) Stays.unfolds

theorem law (s : Setting) : Law s (Unfolds s) :=
  { rules s with
    goTo := fun performed => (rules s).goTo performed
      (fun departure arrival => (Stays.payLeg departure arrival).mono Stays.unfolds)
      fun _ => moveTo }

end Unfolds

end Gamebook
