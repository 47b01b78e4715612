import Gamebook.Proofs.Play.Safety
import Gamebook.Proofs.Script.Wording

/-! What the checks of a script leave open.

Reading sees to it that options have texts. It takes names and targets of exits and the texts of events
and effects as they are written, and weights that are not finite. Where those are in order, texts are
filled, menus are listed and draws are made; where they are not, this fails, whatever the state.
-/

set_option autoImplicit false

namespace Gamebook

/-- What filling takes: a text, or a collection in which no dollar sign stands by itself. -/
def Value.isLegible : Value → Bool
  | .text _ => true
  | .list items => !items.any (·.isText "$")
  | .mapping entries => !entries.any (·.1.isText "$")
  | _ => false

def Exit.isLegible (exit : Exit) : Bool :=
  if exit.name.isTruthy then exit.name.isLegible
  else !exit.target.isTruthy || exit.target.isString

/-- At most one event has a positive weight, or the positive weights have a finite sum. -/
def Site.isDrawable (site : Site) : Bool :=
  (site.events.filter Event.isWeighted).length ≤ 1 || site.hasFiniteWeights

namespace Template

variable {script : Script} {config : TextConfig} {state : State}

theorem fill_of_illegible {raw : Value} (illegible : raw.isLegible = false) :
    fill script config state raw = .error .notText := by
  unfold Value.isLegible at illegible
  unfold fill
  split at illegible
  · cases illegible
  · rw [Bool.not_eq_false'] at illegible
    exact if_pos illegible
  · rw [Bool.not_eq_false'] at illegible
    exact if_pos illegible
  · rename_i text list mapping
    cases raw with
    | text s => exact absurd rfl (text s)
    | list items => exact absurd rfl (list _ items)
    | mapping entries => exact absurd rfl (mapping _ entries)
    | _ => rfl

theorem exitLabel_of_illegible {exit : Exit} (illegible : exit.isLegible = false) :
    (∃ fault, exitLabel script config exit = .error fault) ∨
      exitLabel script config exit = .ok exit.name ∧ exit.name.isLegible = false := by
  unfold Exit.isLegible at illegible
  unfold exitLabel
  split at illegible
  · rename_i named
    exact .inr ⟨by rw [if_pos named]; rfl, illegible⟩
  · rename_i unnamed
    obtain ⟨led, odd⟩ := Bool.or_eq_false_iff.1 illegible
    rw [if_neg unnamed, if_neg (by simpa using led)]
    left
    cases target : exit.target with
    | text s =>
      rw [target] at odd
      cases odd
    | _ => exact ⟨_, rfl⟩

end Template

namespace Play

theorem menu_of_illegible (s : Setting) (state : State) {site : Site} {exit : Exit}
    (listed : exit ∈ site.exits) (illegible : exit.isLegible = false) :
    ∃ fault, menu s state site = .error fault := by
  unfold menu
  cases labels : site.exits.mapM (listExit s) with
  | error fault => exact ⟨fault, rfl⟩
  | ok choices =>
    obtain ⟨choice, offered, made⟩ := exists_of_mem_left (mapM_eq_ok_iff.1 labels) listed
    -- as the exits have labels, it is the filling that fails
    rcases Template.exitLabel_of_illegible illegible with ⟨fault, failed⟩ | ⟨named, illegible⟩
    · rw [listExit, failed] at made
      cases made
    · rw [listExit, named] at made
      cases made
      have unfilled : fillChoice s state ⟨exit.name, exitAction exit⟩ = .error .notText := by
        rw [fillChoice, Template.fill_of_illegible illegible]
        rfl
      exact exists_mapM_eq_error offered unfilled

end Play

theorem Event.select_isOk_iff (site : Site) (dice : Dice) :
    (∃ drawn, Event.select site.events dice = .ok drawn) ↔ site.isDrawable = true := by
  unfold Site.isDrawable
  rw [Bool.or_eq_true, decide_eq_true_iff]
  change _ ↔ _ ∨ Event.hasFiniteTotal site.events = true
  by_cases several : 2 ≤ (site.events.filter Event.isWeighted).length
  · rw [Event.select_of_several several]
    by_cases finite : Event.hasFiniteTotal site.events = true
    · simp [finite]
    · rw [if_neg finite]
      exact ⟨by simp, fun drawable => absurd (drawable.resolve_right finite) (by omega)⟩
  · -- with one positive weight or none, the sum is not looked at
    refine ⟨fun _ => .inl (by omega), fun _ => ?_⟩
    match weighted : site.events.filter Event.isWeighted with
    | [] => exact ⟨_, Event.select_of_none weighted dice⟩
    | [_] => exact ⟨_, Event.select_of_one weighted dice⟩
    | _ :: _ :: _ => simp [weighted] at several

/-- What is known of a script that has been read, and what its fields decide. Where exits are labelled,
only a number too long to be written keeps a text from being filled or a menu from being listed; one
exit without a label keeps the menu of its site from being listed in any state, and weights that are
not finite keep the draw from being made on any dice. -/
theorem Play.unchecked_fields {v : Value} {s : Setting} (read : Script.read v = .ok s.script) :
    s.script.Written ∧
      (s.script.Labelled → ∀ state : State,
        (∀ raw, (∃ filled, Template.fill s.script s.config.text state (.text raw) = .ok (.text filled)) ∨
          Template.fill s.script s.config.text state (.text raw) = .error .badNumeral ∧
            state.isWritable = false) ∧
        ∀ site ∈ s.script.sites, (∃ choices, menu s state site = .ok choices) ∨
          menu s state site = .error .badNumeral ∧ state.isWritable = false) ∧
      (∀ state raw, raw.isLegible = false →
        Template.fill s.script s.config.text state raw = .error .notText) ∧
      (∀ state, ∀ site ∈ s.script.sites, ∀ exit ∈ site.exits, exit.isLegible = false →
        ∃ fault, menu s state site = .error fault) ∧
      ∀ site ∈ s.script.sites, ∀ dice,
        (∃ drawn, Event.select site.events dice = .ok drawn) ↔ site.isDrawable = true := by
  refine ⟨Script.written_of_read read, fun labelled state => ⟨Template.fill_text labelled, ?_⟩,
    fun _ _ => Template.fill_of_illegible,
    fun state _ _ _ => menu_of_illegible s state, fun site _ => Event.select_isOk_iff site⟩
  intro site member
  have own : ∀ exit ∈ site.exits, exit.Labelled ∧ True :=
    fun exit listed => ⟨labelled site member exit listed, trivial⟩
  -- of what the exits do, nothing is asked
  rcases menu_of_labelled (A := fun _ => True) labelled state own with ⟨choices, listed, -⟩ | failed
  · exact .inl ⟨choices, listed⟩
  · exact .inr failed

def Value.numberedExit : Value :=
  .ofEntries [
    ("sites", .ofList [
      .ofEntries [("id", "ford"), ("ports", .ofList [.ofEntries [("target", "mill"), ("name", .int 5)]])],
      .ofEntries [("id", "mill")]]),
    ("entry", .ofEntries [("site", "ford")])]

theorem Play.unchecked_fields_numberedExit :
    ∃ script, Script.read Value.numberedExit = .ok script ∧
      ∃ site ∈ script.sites, site.id = "ford" ∧
        ∀ state, ∃ fault, menu { script, cost := fun _ _ => {} } state site = .error fault := by
  obtain ⟨script, read⟩ : ∃ script, Script.read Value.numberedExit = .ok script := ⟨_, rfl⟩
  obtain ⟨-, -, -, unlisted, -⟩ :=
    unchecked_fields (v := Value.numberedExit) (s := { script, cost := fun _ _ => {} }) read
  cases read
  refine ⟨_, rfl, _, List.mem_cons_self, rfl, fun state => ?_⟩
  exact unlisted state _ List.mem_cons_self _ List.mem_cons_self rfl

end Gamebook
