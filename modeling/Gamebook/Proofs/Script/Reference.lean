import Gamebook.Proofs.Play.Passage
import Gamebook.Proofs.Script.WellFormed
import Gamebook.Proofs.Script.Wording
import Gamebook.Proofs.Session.Refusal

/-! References to sites, as they are written.

The id of a site is kept as a text, and so is the site of the entry, whatever they were written as. The
target of an exit and the site of an effect are kept as they are. So a reference leads to its site where
both are texts; one that is written as anything else leads nowhere, though the entry may be written so.
-/

set_option autoImplicit false

namespace Gamebook

open Play

namespace Value

theorem same_text_iff {v : Value} {s : String} : v.same (.text s) = true ↔ v = .text s := by
  cases v with
  | text t => simp [same]
  | _ => simp [same, magnitude?]

theorem toText_eq_ok {v : Value} {text : String} (written : v.toText = .ok text) :
    text = v.display := by
  unfold toText at written
  split at written
  · exact (Except.ok.inj written).symm
  · cases written

end Value

namespace Site

theorem exists_exitTo? {site : Site} {exit : Exit} {id : String} {position : Nat}
    (placed : site.exits[position]? = some exit) (leads : exit.target = .text id) :
    ∃ first, site.exitTo? (.text id) = some first ∧ first ∈ site.exits ∧ first.target = .text id ∧
      ((∀ earlier < position, ∀ other, site.exits[earlier]? = some other → other.target ≠ .text id) →
        first = exit) := by
  have among : exit ∈ site.exits := List.mem_of_getElem? placed
  have some : (site.exitTo? (.text id)).isSome = true := by
    unfold exitTo?
    rw [List.find?_isSome]
    exact ⟨exit, among, Value.same_text_iff.2 leads⟩
  obtain ⟨first, found⟩ := Option.isSome_iff_exists.1 some
  obtain ⟨same, place, inside, here, before⟩ := List.find?_eq_some_iff_getElem.1 found
  have own : first.target = .text id := Value.same_text_iff.1 same
  refine ⟨first, found, List.mem_of_find?_eq_some found, own, fun earlier => ?_⟩
  rcases Nat.lt_trichotomy place position with less | rfl | more
  · exact absurd own (earlier place less first (List.getElem?_eq_some_iff.2 ⟨inside, here⟩))
  · exact Option.some.inj ((List.getElem?_eq_some_iff.2 ⟨inside, here⟩).symm.trans placed)
  · obtain ⟨within, there⟩ := List.getElem?_eq_some_iff.1 placed
    have apart := before position more
    rw [there, Value.same_text_iff.2 leads] at apart
    cases apart

end Site

/-- The site that an effect goes to, as its argument gives it: by itself, or under `site`. -/
def Effect.siteGiven? : Value → Option Value
  | .mapping entries => Entries.get? entries "site"
  | v => some v

theorem Effect.goTo_of_read {mark : Option Nat} {argument id : Value} {effect : Effect}
    (read : Effect.read (@Value.mapping mark [("go_to", argument)]) = .ok effect)
    (given : Effect.siteGiven? argument = some id) : ∃ instantly, effect = .goTo id instantly := by
  change Effect.readGoTo argument = .ok effect at read
  cases argument with
  | text name =>
    cases given
    cases read
    exact ⟨false, rfl⟩
  | mapping entries =>
    change Entries.get? entries "site" = some id at given
    simp only [Effect.readGoTo, given] at read
    cases read
    exact ⟨_, rfl⟩
  | _ => cases read

/-- A reference that leads to its site: once the fare is paid the way goes there, an exit without a name
is labelled by the name of the site, and the first exit that leads there is found under the id. -/
structure Setting.Resolves (s : Setting) (id : Value) (site : Site) : Prop where
  reached : ∀ (depth : Nat) (instantly : Bool) (w : World),
    let fare := outcome (onlyIf (!instantly) (payLeg s w.game.state.site site)) w
    let went := outcome (goTo s (dispatch s depth) id instantly) w
    (∃ stop, fare.1 = .error stop ∧ went = (.error stop, fare.2)) ∨
      fare.1 = .ok () ∧
        ∃ rest, went.2.game.history = fare.2.game.history ++ .moved site.id :: rest
  labelled : ∀ exit : Exit, exit.target = id → exit.name.isTruthy = false →
    Template.exitLabel s.script s.config.text exit = .ok (.text (s.config.text.goToPrefix ++ site.name))
  found : ∀ (place : Site) (position : Nat) (exit : Exit), place.exits[position]? = some exit →
    exit.target = id → ∃ first, place.exitTo? (.text site.id) = some first ∧ first.target = id ∧
      ((∀ earlier < position, ∀ other, place.exits[earlier]? = some other → other.target ≠ id) →
        first = exit)

/-- A reference that does not lead to the site it is meant for: whoever follows it is refused, an exit
without a name has no label, and none is found under the id. -/
structure Setting.Dangles (s : Setting) (id : Value) (site : Site) : Prop where
  refused : ∀ (depth : Nat) (instantly : Bool) (w : World),
    Refused (goTo s (dispatch s depth) id instantly) w (if id.isKey then .unknownSite id else .notKey)
  unlabelled : ∀ exit : Exit, exit.target = id → exit.name.isTruthy = false →
    ∃ fault, Template.exitLabel s.script s.config.text exit = .error fault
  missed : ∀ (place : Site) (exit : Exit), exit.target = id →
    place.exitTo? (.text site.id) ≠ some exit

namespace Setting

variable {s : Setting} {site : Site}

theorem resolves_text (listed : s.script.findSite? site.id = some site) (given : site.id ≠ "") :
    s.Resolves (.text site.id) site := by
  have known : s.script.site (.text site.id) = .ok site := by
    rw [Script.site_text, listed]
  refine ⟨fun depth instantly w => ?_, fun exit leads unnamed => ?_,
    fun place position exit placed leads => ?_⟩
  · intro fare went
    have run : went = _ := (congrArg (outcome · w) (goTo_of_found known instantly)).trans
      (outcome_passage site instantly w)
    rcases paid : fare with ⟨answer, u⟩
    change outcome (onlyIf (!instantly) (payLeg s w.game.state.site site)) w = _ at paid
    rw [paid] at run
    cases answer with
    | error stop => exact .inl ⟨stop, rfl, run⟩
    | ok _ =>
      right
      obtain ⟨rest, -, grown⟩ := unfolds_welcome ((Unfolds.law s).dispatch depth) listed
        (s.arrives w.game.state.site site) { u with game := u.game.moveTo site.id }
      dsimp only at run
      rw [← run] at grown
      refine ⟨rfl, rest, ?_⟩
      rw [grown.history]
      exact List.append_assoc _ _ _
  · have led : exit.target.isTruthy = true := by
      rw [leads]
      simpa [Value.isTruthy] using given
    have resolved : s.script.site? (.text site.id) = .ok (some site) := by
      change Except.ok (s.script.findSite? site.id) = _
      rw [listed]
    unfold Template.exitLabel
    rw [unnamed, led, leads, resolved]
    rfl
  · obtain ⟨first, found, -, own, earliest⟩ := Site.exists_exitTo? placed leads
    exact ⟨first, found, own, earliest⟩

theorem dangles_of_not_isString {id : Value} (odd : id.isString = false) (given : id.isTruthy = true)
    (site : Site) : s.Dangles id site := by
  have other : ∀ name, id ≠ .text name := by
    rintro name rfl
    cases odd
  refine ⟨fun depth instantly w => Refused.goTo (fun site _ => other site.id) instantly,
    fun exit leads unnamed => ?_, fun place exit leads found => ?_⟩
  · unfold Template.exitLabel
    rw [unnamed, leads, given]
    cases id with
    | text name => exact absurd rfl (other name)
    | _ => exact ⟨_, rfl⟩
  · have same := List.find?_some found
    rw [leads] at same
    exact other site.id (Value.same_text_iff.1 same)

/-- A site that is written under some id goes by the text of it. The entry leads there when it is written
as the id is, and so does any reference that is written as a text. One written as the id is leads there
only if this is a text; exits and effects keep what is written. -/
theorem references_resolve {data : Value} (read : Script.read data = .ok s.script)
    {items : List Value} (sited : (data.field "sites").Lists items) {item : Value}
    (member : item ∈ items) :
    let id := item.field "id"
    ∃ site ∈ s.script.sites, site.id = id.display ∧
      ((data.field "entry").field "site" = id → s.script.entrySite = .ok site) ∧
      s.Resolves (.text site.id) site ∧
      (id.isString = true → id = .text site.id) ∧
      (id.isString = false → s.Dangles id site) ∧
      (∀ place ∈ items, ∀ ports, (place.field "ports").Lists ports → ∀ port ∈ ports,
        port.field "target" = id →
          ∃ there ∈ s.script.sites, there.id = (place.field "id").display ∧
            ∃ exit ∈ there.exits, Exit.From port exit ∧ exit.target = id ∧
              (exit.action = none → ∀ depth,
                dispatch s (depth + 1) (exitAction exit) = goTo s (dispatch s depth) id false)) ∧
      ∀ mark argument effect, Effect.read (@Value.mapping mark [("go_to", argument)]) = .ok effect →
        Effect.siteGiven? argument = some id →
          ∃ instantly, ∀ perform, applyEffect s perform effect = goTo s perform id instantly := by
  intro id
  have from_ := Script.read_iff.1 read
  obtain ⟨_, again, sites⟩ := from_.sites
  cases sited.unique again
  have written {item : Value} {site : Site} (own : Site.From s.script.events item site) :
      (item.field "id").isTruthy = true ∧ site.id = (item.field "id").display := by
    obtain ⟨given, text⟩ := Value.asId?_eq_some_iff.1 own.id
    exact ⟨given, Value.toText_eq_ok text⟩
  obtain ⟨site, listed, own⟩ := exists_of_mem_left sites member
  obtain ⟨given, named⟩ := written own
  have found : s.script.findSite? site.id = some site :=
    (Script.findSite?_eq_some_iff from_.siteIds).2 ⟨listed, rfl⟩
  refine ⟨site, listed, named, fun same => ?_,
    resolves_text found (Value.ne_empty_of_asId? own.id), fun string => ?_,
    fun odd => dangles_of_not_isString odd given site, fun place within ports led port among leads => ?_,
    fun mark argument effect read given => ?_⟩
  · have entry := from_.entry.site
    rw [same] at entry
    have there : s.script.entry.site = site.id := Option.some.inj (entry.symm.trans own.id)
    unfold Script.entrySite
    rw [there, found]
  · obtain ⟨text, same⟩ := Value.eq_text_of_isString string
    rw [named]
    change id = .text id.display
    rw [same]
    rfl
  · obtain ⟨there, known, its⟩ := exists_of_mem_left sites within
    obtain ⟨_, again, exits⟩ := its.exits
    cases led.unique again
    obtain ⟨exit, out, data⟩ := exists_of_mem_left exits among
    have target : exit.target = id := data.target.trans leads
    refine ⟨there, known, (written its).2, exit, out, data, target, fun idle depth => ?_⟩
    rw [exitAction, idle, target]
    exact dispatch_travel depth id
  · obtain ⟨instantly, rfl⟩ := Effect.goTo_of_read read given
    exact ⟨instantly, fun perform => rfl⟩

end Setting

def Value.numberedTowns : Value :=
  .ofEntries [
    ("sites", .ofList [
      .ofEntries [("id", .int 1), ("ports", .ofList [
        .ofEntries [("target", .int 2), ("name", "Bridge")],
        .ofEntries [("target", "mill")]])],
      .ofEntries [("id", .int 2)],
      .ofEntries [("id", "mill")]]),
    ("entry", .ofEntries [("site", .int 1)])]

theorem Setting.references_resolve_numberedTowns :
    ∃ script, Script.read Value.numberedTowns = .ok script ∧
      let s : Setting := { script, cost := fun _ _ => {} }
      (∃ entry, script.entrySite = .ok entry ∧ entry.id = "1") ∧
      (∃ bridge ∈ script.sites, bridge.id = "2" ∧ s.Dangles (.int 2) bridge) ∧
      ∃ mill ∈ script.sites, s.Resolves "mill" mill := by
  have accepted : (Script.read Value.numberedTowns).isOk = true := by decide +kernel
  cases read : Script.read Value.numberedTowns with
  | error fault =>
    rw [read] at accepted
    cases accepted
  | ok script =>
    refine ⟨script, rfl, ?_⟩
    intro s
    have sited : (Value.numberedTowns.field "sites").Lists _ := Value.lists_list _ _
    obtain ⟨entry, -, one, entered, -⟩ := references_resolve (s := s) read sited List.mem_cons_self
    obtain ⟨bridge, there, two, -, -, -, dangles, -⟩ := references_resolve (s := s) read sited
      (List.mem_cons_of_mem _ List.mem_cons_self)
    obtain ⟨mill, listed, named, -, resolves, -⟩ := references_resolve (s := s) read sited
      (List.mem_cons_of_mem _ (List.mem_cons_of_mem _ List.mem_cons_self))
    refine ⟨⟨entry, entered rfl, one.trans (by decide +kernel)⟩,
      ⟨bridge, there, two.trans (by decide +kernel), dangles rfl⟩, mill, listed, ?_⟩
    rw [named] at resolves
    exact resolves

end Gamebook
