import Gamebook.Proofs.Play.Depth
import Gamebook.Proofs.Session.Run

/-! Effects one after the other, and effects in the place of a trigger.

A list of effects does what its parts do, as far as none of them stops. An event that only dispatches
effects can be written out where it is triggered: this takes a level of depth away, and the run ends as
before.
-/

set_option autoImplicit false

namespace Gamebook

/-- An event that says and offers nothing, and whose action is a list of effects. -/
structure Event.Does (event : Event) (effects : List Effect) : Prop where
  silent : event.text = .null
  idle : event.choices = none
  acts : event.action = some (.scripted effects)

/-- Effects with triggers written out: in place of some triggers stand the effects of the events that
they name, in which triggers may have been written out in turn, up to `levels` of them inside each
other. -/
inductive Script.Inlines (script : Script) : Nat → List Effect → List Effect → Prop where
  | nil {levels : Nat} : Inlines script levels [] []
  | keep {levels : Nat} {effects inlined : List Effect} (effect : Effect)
      (rest : Inlines script levels effects inlined) :
      Inlines script levels (effect :: effects) (effect :: inlined)
  | inline {levels : Nat} {id : String} {event : Event} {own others effects inlined : List Effect}
      (found : script.findEvent? id = some event) (does : event.Does own)
      (nested : Inlines script levels own others)
      (rest : Inlines script (levels + 1) effects inlined) :
      Inlines script (levels + 1) (.trigger id :: effects) (others ++ inlined)

namespace Script.Inlines

variable {script : Script}

theorem refl (levels : Nat) (effects : List Effect) : script.Inlines levels effects effects := by
  induction effects with
  | nil => exact .nil
  | cons effect rest ih => exact .keep effect ih

theorem append {levels : Nat} {effects inlined effects' inlined' : List Effect}
    (first : script.Inlines levels effects inlined)
    (rest : script.Inlines levels effects' inlined') :
    script.Inlines levels (effects ++ effects') (inlined ++ inlined') := by
  induction first with
  | nil => exact rest
  | keep effect _ ih => exact .keep effect (ih rest)
  | inline found does nested _ _ ih =>
    rw [List.append_assoc]
    exact .inline found does nested (ih rest)

theorem one {id : String} {event : Event} {effects : List Effect}
    (found : script.findEvent? id = some event) (does : event.Does effects)
    (first rest : List Effect) :
    script.Inlines 1 (first ++ .trigger id :: rest) (first ++ effects ++ rest) := by
  rw [List.append_assoc]
  exact (refl 1 first).append (.inline found does (refl 0 effects) (refl 1 rest))

end Script.Inlines

namespace Play

variable {s : Setting} {perform : Action → Play Unit}

theorem applyEffects_append (first rest : List Effect) :
    applyEffects s perform (first ++ rest) =
      applyEffects s perform first >>= fun _ => applyEffects s perform rest := by
  induction first with
  | nil => rw [List.nil_append, applyEffects, pure_bind]
  | cons effect others ih =>
    rw [List.cons_append, applyEffects, applyEffects, ih, bind_assoc]

theorem applyEffects_one (effect : Effect) :
    applyEffects s perform [effect] = applyEffect s perform effect := by
  rw [applyEffects, applyEffects]
  exact bind_pure _

theorem exists_of_applyEffects_eq_error {effects : List Effect} {w v : World} {stop : Stop}
    (stopped : outcome (applyEffects s perform effects) w = (.error stop, v)) :
    ∃ done effect others u, effects = done ++ effect :: others ∧
      outcome (applyEffects s perform done) w = (.ok (), u) ∧
      outcome (applyEffect s perform effect) u = (.error stop, v) := by
  induction effects generalizing w with
  | nil => cases stopped
  | cons effect rest ih =>
    rw [applyEffects, outcome_bind] at stopped
    rcases first : outcome (applyEffect s perform effect) w with ⟨answer, u⟩
    rw [first] at stopped
    cases answer with
    | error stop' =>
      cases stopped
      exact ⟨[], effect, rest, w, rfl, rfl, first⟩
    | ok _ =>
      obtain ⟨done, failed, others, x, rfl, ran, broke⟩ := ih stopped
      refine ⟨effect :: done, failed, others, x, rfl, ?_, broke⟩
      rw [applyEffects, outcome_bind, first]
      exact ran

theorem applyEffect_trigger {id : String} {event : Event} {effects : List Effect}
    (found : s.script.findEvent? id = some event) (does : event.Does effects) :
    applyEffect s perform (.trigger id) = perform (.scripted effects) := by
  have quiet : event.isNarrative = false := by
    rw [Event.isNarrative, does.silent, does.idle]
    rfl
  change liftFault (s.script.event (.text id)) >>= trigger s perform = _
  rw [Script.event_text, found, liftFault_ok, pure_bind, trigger, quiet, does.acts]
  rfl

variable {levels : Nat} {effects inlined : List Effect}

/-- Effects with triggers written out end as those that they come from, at the same depth. -/
theorem approximates_inlined (inlines : s.script.Inlines levels effects inlined) (depth : Nat) :
    Approximates (applyEffects s (dispatch s depth) effects)
      (applyEffects s (dispatch s depth) inlined) := by
  induction inlines generalizing depth with
  | nil => exact .refl _
  | keep effect _ ih => exact .after _ fun _ => ih depth
  | @inline _ _ _ own _ _ _ found does _ _ nested rest =>
    rw [applyEffects, applyEffect_trigger found does, applyEffects_append]
    refine Approximates.bind ?_ fun _ => rest depth
    cases depth with
    | zero => exact .tooDeep _
    | succ depth => exact ((Shallower.dispatch_succ s depth).applyEffects own).trans (nested (depth + 1))

theorem inlined_approximates (inlines : s.script.Inlines levels effects inlined) (depth : Nat) :
    Approximates (applyEffects s (dispatch s depth) inlined)
      (applyEffects s (dispatch s (depth + levels)) effects) := by
  induction inlines with
  | nil => exact .refl _
  | @keep levels _ _ effect _ ih =>
    exact ((Shallower.dispatch_add s depth levels).applyEffect effect).bind fun _ => ih
  | inline found does _ _ nested rest =>
    rw [applyEffects, applyEffect_trigger found does, applyEffects_append]
    exact nested.bind fun _ => rest

theorem ends_inlined_iff (inlines : s.script.Inlines levels effects inlined) {w v : World}
    {fault? : Option Fault} :
    Ends s (.scripted effects) w fault? v ↔ Ends s (.scripted inlined) w fault? v := by
  constructor
  · rintro ⟨_ | depth, done⟩
    · exact absurd (congrArg Prod.fst done).symm (ending_ne_tooDeep fault?)
    · exact ⟨depth + 1, (approximates_inlined inlines depth).ends done⟩
  · rintro ⟨_ | depth, done⟩
    · exact absurd (congrArg Prod.fst done).symm (ending_ne_tooDeep fault?)
    · exact ⟨depth + levels + 1, (inlined_approximates inlines depth).ends done⟩

/-- Effects in one list do what the first of them do and then, unless these stop, what the rest do. If
they stop, what was done before the effect that stops stands. A trigger of an event that only dispatches
effects may be written out, and so may triggers that are nested in it: the run ends in the same way, or
it ends in neither case, and as many more levels of depth as were written out are all that the triggers
take. -/
theorem effects_compose (s : Setting) (w : World) (first rest : List Effect) (depth : Nat) :
    let run effects := outcome (dispatch s (depth + 1) (.scripted effects))
    (run (first ++ rest) w =
        match run first w with
        | (.ok _, v) => run rest v
        | (.error stop, v) => (.error stop, v)) ∧
      (∀ stop v, run first w = (.error stop, v) →
        ∃ done effect others u, first = done ++ effect :: others ∧
          run done w = (.ok (), u) ∧ run [effect] u = (.error stop, v)) ∧
      (∀ id event effects, s.script.findEvent? id = some event → event.Does effects →
        ∀ fault? v, Ends s (.scripted (first ++ .trigger id :: rest)) w fault? v ↔
          Ends s (.scripted (first ++ effects ++ rest)) w fault? v) ∧
      ∀ levels inlined, s.script.Inlines levels first inlined →
        (∀ fault? v,
          Ends s (.scripted first) w fault? v ↔ Ends s (.scripted inlined) w fault? v) ∧
        (∀ fault? v, run first w = (ending fault?, v) → run inlined w = (ending fault?, v)) ∧
        ∀ fault? v, run inlined w = (ending fault?, v) →
          outcome (dispatch s (depth + levels + 1) (.scripted first)) w = (ending fault?, v) := by
  intro run
  refine ⟨?_, ?_, ?_, ?_⟩
  · change outcome (applyEffects s (dispatch s depth) (first ++ rest)) w = _
    rw [applyEffects_append, outcome_bind]
    change _ = match outcome (applyEffects s (dispatch s depth) first) w with
      | (.ok _, v) => run rest v
      | (.error stop, v) => (.error stop, v)
    rcases outcome (applyEffects s (dispatch s depth) first) w with ⟨_ | _, v⟩ <;> rfl
  · intro stop v stopped
    obtain ⟨done, effect, others, u, split, ran, broke⟩ := exists_of_applyEffects_eq_error stopped
    refine ⟨done, effect, others, u, split, ran, ?_⟩
    change outcome (applyEffects s (dispatch s depth) [effect]) u = _
    rw [applyEffects_one]
    exact broke
  · intro id event effects found does fault? v
    exact ends_inlined_iff (.one found does first rest)
  · intro levels inlined inlines
    refine ⟨fun fault? v => ends_inlined_iff inlines, fun fault? v done => ?_, fun fault? v done => ?_⟩
    · exact (approximates_inlined inlines depth).ends done
    · exact (inlined_approximates inlines depth).ends done

end Play

def Script.tollGate : Script where
  sites := [{ id := "ford", name := "Ford" }]
  events := [
    { id := "toll", action := some (.scripted [.mutate "money" (-5) "toll"]) },
    { id := "gate"
      action := some (.scripted [.text "A gate." [LineType.normal.name], .trigger "toll"]) }]
  entry := { site := "ford" }

def Setting.tollGate : Setting where
  script := .tollGate
  cost := .flat 1 10

theorem Play.effects_compose_tollGate :
    let s := Setting.tollGate
    let w := s.newWorld .empty (.ofList [])
    let gate := s.script.events[1]
    let said : Effect := .text "A gate." [LineType.normal.name]
    let paid : Effect := .mutate "money" (-5) "toll"
    s.script.findEvent? "gate" = some gate ∧ gate.Does [said, .trigger "toll"] ∧
      s.script.Inlines 2 [.trigger "gate"] [said, paid] ∧
      (∃ v, outcome (dispatch s 1 (.scripted [said, paid])) w = (.ok (), v) ∧
        v.game.state.status.money = 95 ∧
        outcome (dispatch s 3 (.scripted [.trigger "gate"])) w = (.ok (), v)) ∧
      ∀ fault? v, Ends s (.scripted [paid, .trigger "gate", paid]) w fault? v ↔
        Ends s (.scripted [paid, said, .trigger "toll", paid]) w fault? v := by
  intro s w gate said paid
  have found : s.script.findEvent? "gate" = some gate := rfl
  have does : gate.Does [said, .trigger "toll"] := ⟨rfl, rfl, rfl⟩
  have inlines : s.script.Inlines 2 [.trigger "gate"] [said, paid] :=
    .inline found does (.keep said (.inline rfl ⟨rfl, rfl, rfl⟩ (.keep paid .nil) .nil)) .nil
  obtain ⟨-, -, -, unrolled⟩ := effects_compose s w [.trigger "gate"] [] 0
  obtain ⟨-, -, deeper⟩ := unrolled 2 [said, paid] inlines
  obtain ⟨-, -, written, -⟩ := effects_compose s w [paid] [paid] 0
  refine ⟨found, does, inlines, ?_, written "gate" gate _ found does⟩
  have ended : (outcome (dispatch s 1 (.scripted [said, paid])) w).1.isOk = true ∧
      (outcome (dispatch s 1 (.scripted [said, paid])) w).2.game.state.status.money = 95 := by
    decide +kernel
  rcases run : outcome (dispatch s 1 (.scripted [said, paid])) w with ⟨answer, v⟩
  rw [run] at ended
  obtain ⟨well, poorer⟩ := ended
  cases answer with
  | error stop => cases well
  | ok _ => exact ⟨v, rfl, poorer, deeper none v run⟩

end Gamebook
