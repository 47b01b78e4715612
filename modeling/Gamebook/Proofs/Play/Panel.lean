import Gamebook.Proofs.Play.Outcome
import Gamebook.Proofs.Traversal

/-! What is offered: options with their texts filled, and the exits of a site as such options. -/

set_option autoImplicit false

namespace Gamebook.Play

variable (s : Setting) (state : State)

def fillChoice (choice : Choice) : Except Fault Choice := do
  return { choice with text := ← Template.fill s.script s.config.text state choice.text }

def listExit (exit : Exit) : Except Fault Choice := do
  return ⟨← Template.exitLabel s.script s.config.text exit, exitAction exit⟩

def menu (site : Site) : Except Fault (List Choice) := do
  let listed ← site.exits.mapM (listExit s)
  listed.mapM (fillChoice s state)

theorem outcome_offer (origin : Origin) (choices : List Choice) (w : World) :
    outcome (offer s origin choices) w =
      match choices.mapM (fillChoice s w.game.state) with
      | .ok filled => (.ok (), { w with game := w.game.offer origin filled })
      | .error fault => (.error (.fault fault), w) := by
  have each (choice : Choice) : Reads (do return { choice with text := ← fill s choice.text }) w
      (fillChoice s w.game.state choice) := by
    unfold fillChoice
    exact (reads_fill s choice.text w).bind fun _ => reads_pure _ w
  rw [offer, (Reads.mapM each choices).outcome_bind]
  cases choices.mapM (fillChoice s w.game.state) with
  | error fault => rfl
  | ok filled => rfl

theorem outcome_offerExits (w : World) :
    outcome (offerExits s) w =
      match s.script.findSite? w.game.state.site with
      | none => (.error (.fault (.unknownSite (.text w.game.state.site))), w)
      | some site =>
        match menu s w.game.state site with
        | .ok choices => (.ok (), { w with game := w.game.offer (.exits site.id) choices })
        | .error fault => (.error (.fault fault), w) := by
  rw [offerExits, outcome_game_bind, (reads_liftFault _ w).outcome_bind, Script.site_text]
  cases s.script.findSite? w.game.state.site with
  | none => rfl
  | some site =>
    have each (exit : Exit) : Reads (exitChoice s exit) w (listExit s exit) := by
      unfold exitChoice listExit
      exact (reads_liftFault _ w).bind fun _ => reads_pure _ w
    dsimp only
    rw [(Reads.mapM each site.exits).outcome_bind, menu]
    cases site.exits.mapM (listExit s) with
    | error fault => rfl
    | ok listed =>
      dsimp only
      rw [outcome_offer]
      rfl

/-- A menu has one option for each exit, in order, and it does what the exit does. -/
theorem actions_of_menu {site : Site} {choices : List Choice}
    (listed : menu s state site = .ok choices) :
    choices.map (·.action) = site.exits.map exitAction := by
  unfold menu at listed
  obtain ⟨labels, named, filled⟩ := bind_eq_ok listed
  -- filling changes texts only, and listing takes the action from the exit
  have kept : choices.map (·.action) = labels.map (·.action) :=
    map_eq_of_mapM (fun choice filled done => by
      obtain ⟨text, _, made⟩ := bind_eq_ok done
      cases made
      rfl) filled
  have own : labels.map (·.action) = site.exits.map exitAction :=
    map_eq_of_mapM (fun exit choice done => by
      obtain ⟨label, _, made⟩ := bind_eq_ok done
      cases made
      rfl) named
  exact kept.trans own

/-- The option of an exit: its label, filled, and what the exit does. -/
theorem option_of_menu {site : Site} {choices : List Choice} (listed : menu s state site = .ok choices)
    {i : Nat} {exit : Exit} (placed : site.exits[i]? = some exit) :
    ∃ label choice, choices[i]? = some choice ∧ choice.action = exitAction exit ∧
      Template.exitLabel s.script s.config.text exit = .ok label ∧
      Template.fill s.script s.config.text state label = .ok choice.text := by
  unfold menu at listed
  obtain ⟨labels, named, filled⟩ := bind_eq_ok listed
  obtain ⟨raw, there, made⟩ := getElem?_of_mapM named placed
  obtain ⟨label, own, made⟩ := bind_eq_ok made
  cases made
  obtain ⟨choice, here, done⟩ := getElem?_of_mapM filled there
  obtain ⟨text, told, made⟩ := bind_eq_ok done
  cases made
  exact ⟨label, _, here, rfl, own, told⟩

end Gamebook.Play
