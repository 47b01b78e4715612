import Gamebook.Proofs.Play.Lookup
import Gamebook.Proofs.Script.WellFormed
import Gamebook.Proofs.Session.Isolation
import Mathlib.Data.List.Perm.Basic

/-! How a script is laid out does not matter.

An author may list sites and shared events in any order, and write a shared event out where a site could
name it. Data that differ in nothing else are read alike or not at all, and no session can tell which of
them it plays.
-/

set_option autoImplicit false

namespace Gamebook

/-- An event of a site in two spellings: a shared event may be written out in place of its id. -/
inductive Event.Respelled (shared : List Value) : Value → Value → Prop where
  | same (v : Value) : Event.Respelled shared v v
  | inlined {id : String} {v : Value} (listed : v ∈ shared) (gives : v.id? = some id) :
      Event.Respelled shared (.text id) v

/-- A site in two spellings, which differ in how its events are written at most. -/
inductive Site.Respelled (shared : List Value) : Value → Value → Prop where
  | same (v : Value) : Site.Respelled shared v v
  | events {mark otherMark : Option Nat} {entries others : Entries} {items otherItems : List Value}
      (fields : ∀ name, name ≠ "events" → Entries.get? others name = Entries.get? entries name)
      (listed : (Entries.getD entries "events" .null).Lists items)
      (otherListed : (Entries.getD others "events" .null).Lists otherItems)
      (each : List.Forall₂ (Event.Respelled shared) items otherItems) :
      Site.Respelled shared (@Value.mapping mark entries) (@Value.mapping otherMark others)

/-- The data of a script in two layouts: sites and shared events in any order, events of sites in
either spelling. -/
inductive Script.Rearranged : Value → Value → Prop where
  | of {mark otherMark : Option Nat} {entries others : Entries}
      {events otherEvents sites shuffled otherSites : List Value}
      (entry : Entries.get? others "entry" = Entries.get? entries "entry")
      (listed : (Entries.getD entries "events" .null).Lists events)
      (otherListed : (Entries.getD others "events" .null).Lists otherEvents)
      (eventOrder : otherEvents.Perm events)
      (sited : (Entries.getD entries "sites" .null).Lists sites)
      (otherSited : (Entries.getD others "sites" .null).Lists otherSites)
      (siteOrder : shuffled.Perm sites)
      (spelling : List.Forall₂ (Site.Respelled events) shuffled otherSites) :
      Script.Rearranged (@Value.mapping mark entries) (@Value.mapping otherMark others)

theorem forall₂_iff_of_forall₂ {α β : Type} {R : α → α → Prop} {P : α → β → Prop}
    (same : ∀ item other, R item other → ∀ result, P other result ↔ P item result)
    {items others : List α} (each : List.Forall₂ R items others) {results : List β} :
    List.Forall₂ P others results ↔ List.Forall₂ P items results := by
  induction each generalizing results with
  | nil => rfl
  | cons related _ ih =>
    cases results with
    | nil => constructor <;> intro none <;> cases none
    | cons result rest => rw [List.forall₂_cons, List.forall₂_cons, same _ _ related, ih]

theorem find?_eq_of_perm {α : Type} {key : α → String} {items others : List α}
    (order : others.Perm items) (distinct : (items.map key).Nodup) (id : String) :
    others.find? (key · == id) = items.find? (key · == id) := by
  have otherDistinct : (others.map key).Nodup := ((order.map key).nodup_iff).2 distinct
  ext item
  rw [find?_eq_some_iff_of_nodup otherDistinct, find?_eq_some_iff_of_nodup distinct, order.mem_iff]

namespace Site

section

variable {shared others : List Event} (same : ∀ id, Event.find? others id = Event.find? shared id)
include same

/-- Of the shared events, a site needs only what their ids name. -/
theorem readEvents_congr (site : String) (position : Nat) (items : List Value) :
    readEvents others site position items = readEvents shared site position items := by
  induction items generalizing position with
  | nil => rfl
  | cons v rest ih =>
    have first : readEvent others site position v = readEvent shared site position v := by
      unfold readEvent
      split
      · rw [same]
      · rfl
      · rfl
    rw [readEvents, readEvents, first, ih]

theorem read_congr (v : Value) : Site.read others v = Site.read shared v := by
  unfold Site.read
  cases v with
  | mapping entries => simp only [readEvents_congr same]
  | _ => rfl

end

section

variable {items : List Value} {shared : List Event}
  (known : ∀ item ∈ items, ∃ event ∈ shared, Event.read item = .ok event)
  (eventIds : (shared.map (·.id)).Nodup)
include known eventIds

theorem readEvent_respelled {v w : Value} (respelled : Event.Respelled items v w) (site : String)
    (position : Nat) : readEvent shared site position w = readEvent shared site position v := by
  cases respelled with
  | same => rfl
  | @inlined id _ listed gives =>
    obtain ⟨event, member, read⟩ := known w listed
    obtain ⟨own, again, data⟩ := Event.read_iff.1 read
    obtain rfl : id = own := by simpa [gives] using again
    have found : Event.find? shared id = some event :=
      (find?_eq_some_iff_of_nodup eventIds).2 ⟨member, data.id⟩
    have named : readEvent shared site position (.text id) = .ok event := by
      rw [readEvent, found]
    rw [named]
    exact readEvent_iff.2 (.own gives data)

theorem readEvents_respelled {own others : List Value}
    (each : List.Forall₂ (Event.Respelled items) own others) (site : String) (position : Nat) :
    readEvents shared site position others = readEvents shared site position own := by
  induction each generalizing position with
  | nil => rfl
  | cons first _ ih =>
    rw [readEvents, readEvents, readEvent_respelled known eventIds first, ih]

theorem read_respelled {v w : Value} (respelled : Site.Respelled items v w) (site : Site) :
    Site.read shared w = .ok site ↔ Site.read shared v = .ok site := by
  cases respelled with
  | same => rfl
  | @events _ _ entries others _ _ fields listed otherListed each =>
    have kept (name : String) (default : Value) (other : name ≠ "events") :
        Entries.getD others name default = Entries.getD entries name default := by
      unfold Entries.getD
      rw [fields name other]
    unfold Value.Lists at listed otherListed
    simp only [Site.read, kept "id" _ (by decide), kept "name" _ (by decide),
      kept "ports" _ (by decide)]
    split
    · -- both are refused, each quoted in its own spelling
      constructor <;> intro read <;> cases read
    · simp only [listed, otherListed, bind, Except.bind,
        readEvents_respelled known eventIds each]

end

end Site

namespace Script

section

variable {events others sites otherSites shuffled : List Value} {entry : Value} {script : Script}

theorem ReadAs.perm (as : ReadAs events sites entry script) (eventOrder : others.Perm events)
    (siteOrder : otherSites.Perm sites) :
    ∃ other, ReadAs others otherSites entry other ∧ script.Alike other := by
  obtain ⟨ownEvents, readEvents, events⟩ := List.perm_comp_forall₂ eventOrder as.events
  obtain ⟨ownSites, readSites, sites⟩ := List.perm_comp_forall₂ siteOrder as.sites
  have found : ∀ id, Event.find? ownEvents id = Event.find? script.events id :=
    find?_eq_of_perm events as.eventIds
  refine ⟨⟨ownSites, ownEvents, script.entry⟩, ⟨readEvents, ?_, as.entry, ?_, ?_⟩, rfl, ?_, ?_⟩
  · refine readSites.imp fun item site read => ?_
    rw [Site.read_congr found]
    exact read
  · exact ((events.map _).nodup_iff).2 as.eventIds
  · exact ((sites.map _).nodup_iff).2 as.siteIds
  · exact funext (find?_eq_of_perm sites as.siteIds)
  · exact funext found

theorem readAs_respelled {spelt : List Value} (eventOrder : others.Perm spelt)
    (spelling : List.Forall₂ (Site.Respelled spelt) shuffled otherSites) :
    ReadAs others otherSites entry script ↔ ReadAs others shuffled entry script := by
  -- either way the shared events have been read, and that is what the spelling turns on
  have same (read : List.Forall₂ (fun item event => Event.read item = .ok event) others script.events)
      (eventIds : (script.events.map (·.id)).Nodup) :
      List.Forall₂ (fun item site => Site.read script.events item = .ok site) otherSites script.sites ↔
        List.Forall₂ (fun item site => Site.read script.events item = .ok site) shuffled script.sites :=
    forall₂_iff_of_forall₂ (fun item other respelled => Site.read_respelled
      (fun listed member => exists_of_mem_left read (eventOrder.mem_iff.2 member)) eventIds respelled)
      spelling
  constructor
  · intro as
    exact ⟨as.events, (same as.events as.eventIds).1 as.sites, as.entry, as.eventIds, as.siteIds⟩
  · intro as
    exact ⟨as.events, (same as.events as.eventIds).2 as.sites, as.entry, as.eventIds, as.siteIds⟩

end

variable {v w : Value}

theorem read_of_rearranged (rearranged : Rearranged v w) {script : Script}
    (read : Script.read v = .ok script) : ∃ other, Script.read w = .ok other ∧ script.Alike other := by
  obtain ⟨entry, listed, otherListed, eventOrder, sited, otherSited, siteOrder, spelling⟩ := rearranged
  obtain ⟨other, as, alike⟩ := ((read_eq_ok_iff listed sited).1 read).perm eventOrder siteOrder
  refine ⟨other, (read_eq_ok_iff otherListed otherSited).2 ?_, alike⟩
  rw [Entries.getD, entry]
  exact (readAs_respelled eventOrder spelling).2 as

theorem read_of_rearranged_back (rearranged : Rearranged v w) {other : Script}
    (read : Script.read w = .ok other) : ∃ script, Script.read v = .ok script ∧ script.Alike other := by
  obtain ⟨entry, listed, otherListed, eventOrder, sited, otherSited, siteOrder, spelling⟩ := rearranged
  have as := (readAs_respelled eventOrder spelling).1 ((read_eq_ok_iff otherListed otherSited).1 read)
  obtain ⟨script, as, alike⟩ := as.perm eventOrder.symm siteOrder.symm
  refine ⟨script, (read_eq_ok_iff listed sited).2 ?_, ?_⟩
  · rw [Entries.getD, ← entry]
    exact as
  · exact ⟨alike.entry.symm, alike.findSite?.symm, alike.findEvent?.symm⟩

theorem Alike.solo {s : Setting} {other : Script} (alike : s.script.Alike other) (w : World)
    (deeds : List Deed) : Setting.solo { s with script := other } w deeds = s.solo w deeds := by
  induction deeds generalizing w with
  | nil => rfl
  | cons deed rest ih =>
    cases deed with
    | own command => simp only [Setting.solo, alike.step, ih]
    | registered name routine => exact ih _

/-- Of data in two layouts, both can be read or neither. What is read has the same entry, and every id
names the same in it; so sessions are set up alike or refused for the same fault, they begin alike, and
whatever befalls them, they answer and become the same. -/
theorem layout_independent (rearranged : Rearranged v w) :
    ((∃ one, Script.read v = .ok one) ↔ ∃ other, Script.read w = .ok other) ∧
      ∀ one other, Script.read v = .ok one → Script.read w = .ok other →
        (one.entry = other.entry ∧ one.findSite? = other.findSite? ∧
          one.findEvent? = other.findEvent?) ∧
        ∀ registry config cost,
          match Setting.of (Source.of one registry) config cost,
            Setting.of (Source.of other registry) config cost with
          | .ok s, .ok t =>
            s.newGame = t.newGame ∧ s.dice = t.dice ∧ ∀ world deeds, s.solo world deeds = t.solo world deeds
          | .error fault, .error refusal => fault = refusal
          | _, _ => False := by
  refine ⟨⟨?_, ?_⟩, fun one other read otherRead => ?_⟩
  · rintro ⟨one, read⟩
    obtain ⟨other, otherRead, -⟩ := read_of_rearranged rearranged read
    exact ⟨other, otherRead⟩
  · rintro ⟨other, read⟩
    obtain ⟨one, oneRead, -⟩ := read_of_rearranged_back rearranged read
    exact ⟨one, oneRead⟩
  · obtain ⟨_, again, alike⟩ := read_of_rearranged rearranged read
    rw [otherRead] at again
    cases again
    refine ⟨⟨alike.entry.symm, alike.findSite?.symm, alike.findEvent?.symm⟩,
      fun registry config cost => ?_⟩
    rw [alike.settingOf]
    cases ready : Setting.of (Source.of one registry) config cost with
    | error fault => rfl
    | ok s =>
      obtain ⟨script, -⟩ := Setting.of_eq_ok ready
      have alike : s.script.Alike other := script ▸ alike
      exact ⟨alike.newGame.symm, rfl, fun world deeds => (alike.solo world deeds).symm⟩

end Script

/-- `Value.twoTowns` with sites and shared events the other way round, and one of these written out
where the first layout names it. -/
def Value.twoTownsMirrored : Value :=
  .ofEntries [
    ("entry", .ofEntries [("site", "ford")]),
    ("sites", .ofList [
      .ofEntries [("id", "mill"), ("ports", .ofList [.ofEntries [("target", "ford")]])],
      .ofEntries [("id", "ford"), ("ports", .ofList [.ofEntries [("target", "mill")]]),
        ("events", .ofList [.ofEntries [("id", "rain"), ("text", "It rains.")],
          .ofEntries [("text", "A frog croaks.")]])]]),
    ("events", .ofList [
      .ofEntries [("id", "rain"), ("text", "It rains.")],
      .ofEntries [("id", "fog"), ("text", "Fog rises.")]])]

theorem Script.rearranged_twoTowns : Rearranged Value.twoTowns Value.twoTownsMirrored := by
  refine .of rfl (Value.lists_list _ _) (Value.lists_list _ _) (.swap _ _ _) (Value.lists_list _ _)
    (Value.lists_list _ _) (.swap _ _ _) (.cons (.same _) (.cons ?_ .nil))
  refine .events (fun name other => ?_) (Value.lists_list _ _) (Value.lists_list _ _)
    (.cons (.inlined (.tail _ (.head _)) (by decide +kernel)) (.cons (.same _) .nil))
  have apart : (Value.text "events").isText name = false := by simpa [Value.isText] using other.symm
  simp [Entries.get?, apart]

theorem Script.layout_independent_twoTowns :
    ∃ one other, Script.read Value.twoTowns = .ok one ∧ Script.read Value.twoTownsMirrored = .ok other ∧
      one.findSite? = other.findSite? ∧
      ∃ s t, Setting.of (Source.of one .empty) {} (some (.flat 1 10)) = .ok s ∧
        Setting.of (Source.of other .empty) {} (some (.flat 1 10)) = .ok t ∧
        ∀ world deeds, s.solo world deeds = t.solo world deeds := by
  obtain ⟨⟨-, sites, -⟩, alike⟩ := (layout_independent rearranged_twoTowns).2 _ _ rfl rfl
  exact ⟨_, _, rfl, rfl, sites, _, _, rfl, rfl, (alike .empty {} (some (.flat 1 10))).2.2⟩

end Gamebook
