import Gamebook.Proofs.Play.Depth
import Gamebook.Proofs.Script.Placeholder
import Gamebook.Proofs.Session.Fare

/-! What the options of a menu say and do.

An option is made of each exit when the menu is shown. Its text is the label of the exit, filled in the
state of that moment, and it keeps what the exit does. When it is chosen nothing of the exit is looked up
again, so it means the same as long as the panel stands, whatever has become of the session.
-/

set_option autoImplicit false

namespace Gamebook

open Play

namespace Template

variable {script : Script} {config : TextConfig}

theorem label_of_labelled {site : Site} {labels : List String}
    (labelled : exitLabels script config site = .ok (labels.map .text)) {i : Nat} {exit : Exit}
    (placed : site.exits[i]? = some exit) :
    ∃ label, labels[i]? = some label ∧ exitLabel script config exit = .ok (.text label) := by
  obtain ⟨raw, there, own⟩ := getElem?_of_mapM labelled placed
  rw [List.getElem?_map] at there
  obtain ⟨label, listed, rfl⟩ := Option.map_eq_some_iff.1 there
  exact ⟨label, listed, own⟩

theorem fill_of_dollar_free (state : State) {raw : String} (plain : '$' ∉ raw.toList) :
    fill script config state (.text raw) = .ok (.text raw) := by
  rw [fill_eq_fillText, fillText_plain fun slot occurs => plain occurs.dollar_mem]
  rfl

theorem fill_exits {state : State} {site : Site} {labels : List String}
    (here : script.findSite? state.site = some site)
    (labelled : exitLabels script config site = .ok (labels.map .text)) :
    fill script config state (.text Slot.exits.token) =
      .ok (.text (config.exitDelimiter.intercalate labels)) := by
  have own (other : Site) (found : script.findSite? state.site = some other) :
      exitLabels script config other = .ok (labels.map .text) := by
    rw [here] at found
    cases found
    exact labelled
  rw [fill_eq_fillText, fillText_alone, slotText_eq script config state own]
  unfold Slot.written Slot.words
  rw [here]
  rfl

end Template

namespace Play

variable {s : Setting} {w : World}

theorem outcome_within_choose {index : Nat} {choice : Choice}
    (offered : w.game.panel[index]? = some choice) (depth : Nat) :
    outcome (within s depth (.choose index)) w = outcome (within s depth (.perform choice.action)) w := by
  unfold within run
  dsimp only
  rw [outcome_bind, outcome_bind, outcome_choose offered]

theorem within_travel (depth : Nat) (target : Value) :
    within s (depth + 1) (.perform (.direct (travel target))) = within s depth (.goTo target false) := by
  unfold within run
  dsimp only
  rw [dispatch_travel]

/-- Labels without a dollar sign are what the options of a menu read. -/
theorem texts_of_menu {state : State} {site : Site} {labels : List String} {choices : List Choice}
    (listed : menu s state site = .ok choices)
    (labelled : Template.exitLabels s.script s.config.text site = .ok (labels.map .text))
    (plain : ∀ label ∈ labels, '$' ∉ label.toList) :
    choices.map (·.text) = labels.map .text := by
  have sized : choices.length = site.exits.length := by
    simpa using congrArg List.length (actions_of_menu s state listed)
  have named : labels.length = site.exits.length := by
    simpa using (mapM_eq_ok_iff.1 labelled).length_eq.symm
  apply List.ext_getElem?
  intro i
  rw [List.getElem?_map, List.getElem?_map]
  cases placed : site.exits[i]? with
  | none =>
    have beyond := List.getElem?_eq_none_iff.1 placed
    rw [List.getElem?_eq_none (by omega), List.getElem?_eq_none (by omega)]
    rfl
  | some exit =>
    obtain ⟨raw, choice, there, -, own, filled⟩ := option_of_menu s state listed placed
    obtain ⟨label, among, told⟩ := Template.label_of_labelled labelled placed
    rw [own] at told
    cases told
    rw [Template.fill_of_dollar_free state (plain label (List.mem_of_getElem? among))] at filled
    rw [there, among]
    exact congrArg some (Except.ok.inj filled).symm

/-- A menu that has just been shown, with texts for labels, has one option for each exit of the site, in
order. The option reads what filling makes of the label of its exit. Whenever it is chosen while the panel
stands, it ends just as performing the action of its exit, or, where the exit has none, as going where the
exit leads, for the fare of the way. As long as nothing has been offered since, the panel stands. Where no
label holds a dollar sign, the options read what the placeholder of the exits is filled with, between its
delimiters. -/
theorem options_are_exits {state : Bool} {labels : List String} {v : World}
    (shown : outcome (refresh s state true) v = (.ok (), w))
    (labelled : ∀ site, s.script.findSite? w.game.state.site = some site →
      Template.exitLabels s.script s.config.text site = .ok (labels.map .text)) :
    ∃ site, s.script.findSite? w.game.state.site = some site ∧
      w.game.panel.length = site.exits.length ∧ w.game.screen.options = w.game.panel ∧
      (∀ (index : Nat) exit, site.exits[index]? = some exit →
        ∃ label choice, labels[index]? = some label ∧ w.game.panel[index]? = some choice ∧
          Template.exitLabel s.script s.config.text exit = .ok (.text label) ∧
          Template.fill s.script s.config.text w.game.state (.text label) = .ok choice.text ∧
          ∀ (later : World) (depth : Nat), later.game.panel = w.game.panel →
            (∀ action, exit.action = some action →
              outcome (within s depth (.choose index)) later =
                outcome (within s depth (.perform action)) later) ∧
            (exit.action = none →
              let went := outcome (within s depth (.goTo exit.target false)) later
              outcome (within s (depth + 1) (.choose index)) later = went ∧
                (went.1 ≠ .error .tooDeep →
                  outcome (within s (depth + 1) (.goTo exit.target false)) later = went))) ∧
      (∀ operations, let later := s.after w operations
        later.game.revision = w.game.revision → later.game.panel = w.game.panel) ∧
      ((∀ label ∈ labels, '$' ∉ label.toList) →
        w.game.panel.map (·.text) = labels.map .text ∧
          Template.fill s.script s.config.text w.game.state (.text "$ports") =
            .ok (.text (s.config.text.exitDelimiter.intercalate labels))) := by
  obtain ⟨site, here, listed, seen⟩ := menu_of_refresh shown
  have sized : w.game.panel.length = site.exits.length := by
    simpa using congrArg List.length (actions_of_menu s _ listed)
  refine ⟨site, here, sized, seen, ?_, ?_, ?_⟩
  · intro index exit placed
    obtain ⟨raw, choice, there, does, own, filled⟩ := option_of_menu s _ listed placed
    obtain ⟨label, among, told⟩ := Template.label_of_labelled (labelled site here) placed
    rw [own] at told
    cases told
    refine ⟨label, choice, among, there, own, filled, fun later depth same => ?_⟩
    have offered : later.game.panel[index]? = some choice := by
      rw [same]
      exact there
    refine ⟨fun action given => ?_, fun idle => ⟨?_, fun uncut => ?_⟩⟩
    · rw [outcome_within_choose offered, does, exitAction, given, Option.getD_some]
    · rw [outcome_within_choose offered, does, exitAction, idle, Option.getD_none, within_travel]
    · exact (Shallower.dispatch_succ s depth).run (.goTo exit.target false) later uncut
  · intro operations later still
    obtain ⟨between, -, grown⟩ := s.unfolds_after w operations
    -- a panel that has been replaced has another revision
    have quiet : between.filterMap Happening.offer? = [] := by
      have counted : later.game.revision = w.game.revision + _ := grown.revision
      exact List.length_eq_zero_iff.1 (by omega)
    have panel : later.game.panel = Happening.panelAfter w.game.panel between := grown.panel
    rw [panel, Happening.panelAfter, quiet]
    rfl
  · intro plain
    exact ⟨texts_of_menu listed (labelled site here) plain,
      Template.fill_exits here (labelled site here)⟩

theorem options_are_exits_twoTowns :
    let s := Setting.twoTowns
    let w := s.after .twoTowns Setting.twoTownsWalk
    let shown := outcome (refresh s true true) w
    let labels := ["go to Ford", "Rest"]
    shown.1.isOk = true ∧
      (∀ site, s.script.findSite? shown.2.game.state.site = some site →
        Template.exitLabels s.script s.config.text site = .ok (labels.map .text)) ∧
      shown.2.game.panel.map (·.text) = labels.map .text ∧
      Template.fill s.script s.config.text shown.2.game.state (.text "$ports") =
        .ok (.text "go to Ford, Rest") ∧
      outcome (within s 1 (.choose 1)) shown.2 = outcome (within s 1 (.perform (.named "rest"))) shown.2 ∧
      outcome (within s 1 (.choose 0)) shown.2 = outcome (within s 0 (.goTo "ford" false)) shown.2 := by
  intro s w shown labels
  have ended : shown.1.isOk = true := by decide +kernel
  have stands : shown.2.game.state.site = "mill" := by decide +kernel
  have labelled : ∀ site, s.script.findSite? shown.2.game.state.site = some site →
      Template.exitLabels s.script s.config.text site = .ok (labels.map .text) := by
    rw [stands]
    intro site found
    cases found
    rfl
  refine ⟨ended, labelled, ?_⟩
  rcases run : shown with ⟨answer, x⟩
  rw [run] at ended stands labelled
  cases answer with
  | error stop => cases ended
  | ok _ =>
    obtain ⟨site, here, -, -, options, -, words⟩ := options_are_exits run labelled
    rw [stands] at here
    cases here
    obtain ⟨-, -, -, -, -, -, bed⟩ := options 1 _ rfl
    obtain ⟨-, -, -, -, -, -, ford⟩ := options 0 _ rfl
    obtain ⟨texts, ways⟩ := words (by decide +kernel)
    exact ⟨texts, ways, (bed x 1 rfl).1 _ rfl, ((ford x 0 rfl).2 rfl).1⟩

end Play

end Gamebook
