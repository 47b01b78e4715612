import Gamebook.Proofs.Traversal
import Gamebook.Script.Basic
import Mathlib.Data.List.Forall2

/-! What reading a script comes to.

A list is read item by item, so what has been read stands beside what was written, one for one. With the
ids told apart, that is all there is to reading: `Script.read_eq_ok_iff`.
-/

set_option autoImplicit false

namespace Gamebook

section

variable {ε α β : Type}

theorem mapM_eq_ok_iff {f : α → Except ε β} {items : List α} {results : List β} :
    items.mapM f = .ok results ↔ List.Forall₂ (fun item result => f item = .ok result) items results := by
  constructor
  · intro done
    induction items generalizing results with
    | nil =>
      cases done
      exact .nil
    | cons item rest ih =>
      obtain ⟨first, others, made, mapped, rfl⟩ := mapM_cons_eq_ok done
      exact .cons made (ih mapped)
  · intro each
    induction each with
    | nil => rfl
    | cons made _ ih =>
      rw [List.mapM_cons, made, ih]
      rfl

variable {R : α → β → Prop}

theorem mapM_eq_ok_iff_of_mem {f : α → Except ε β} {items : List α} {results : List β}
    (each : ∀ a ∈ items, ∀ b, f a = .ok b ↔ R a b) :
    items.mapM f = .ok results ↔ List.Forall₂ R items results := by
  rw [mapM_eq_ok_iff]
  induction items generalizing results with
  | nil => simp
  | cons item rest ih =>
    rw [List.forall_mem_cons] at each
    cases results with
    | nil => simp
    | cons b bs => rw [List.forall₂_cons, List.forall₂_cons, each.1 b, ih each.2]

theorem mapM_eq_error_iff_of_mem {f : α → Except ε β} {Q : α → ε → Prop} {items : List α} {e : ε}
    (done : ∀ a b, f a = .ok b ↔ R a b) (each : ∀ a ∈ items, ∀ e, f a = .error e ↔ Q a e) :
    items.mapM f = .error e ↔
      ∃ before a after, items = before ++ a :: after ∧ (∀ b ∈ before, ∃ result, R b result) ∧ Q a e := by
  rw [mapM_eq_error_iff]
  constructor
  · rintro ⟨before, a, after, rfl, fine, failed⟩
    refine ⟨before, a, after, rfl, fun b listed => ?_, (each a (by simp) e).1 failed⟩
    obtain ⟨result, made⟩ := fine b listed
    exact ⟨result, (done b result).1 made⟩
  · rintro ⟨before, a, after, rfl, fine, related⟩
    refine ⟨before, a, after, rfl, fun b listed => ?_, (each a (by simp) e).2 related⟩
    obtain ⟨result, related⟩ := fine b listed
    exact ⟨result, (done b result).2 related⟩

theorem exists_of_mem_right {items : List α} {results : List β} (each : List.Forall₂ R items results)
    {result : β} (member : result ∈ results) : ∃ item ∈ items, R item result := by
  induction each with
  | nil => cases member
  | cons first _ ih =>
    rcases List.mem_cons.1 member with rfl | member
    · exact ⟨_, List.mem_cons_self, first⟩
    · obtain ⟨item, within, related⟩ := ih member
      exact ⟨item, List.mem_cons_of_mem _ within, related⟩

theorem exists_of_mem_left {items : List α} {results : List β} (each : List.Forall₂ R items results)
    {item : α} (member : item ∈ items) : ∃ result ∈ results, R item result := by
  obtain ⟨result, within, related⟩ := exists_of_mem_right each.flip member
  exact ⟨result, within, related⟩

theorem filterMap_eq_map {id? : α → Option String} {key : β → String} {items : List α}
    {results : List β}
    (each : List.Forall₂ (fun item result => id? item = some (key result)) items results) :
    items.filterMap id? = results.map key := by
  induction each with
  | nil => rfl
  | cons first _ ih => rw [List.filterMap_cons_some first, List.map_cons, ih]

/-- Where keys are told apart, looking one up finds the item that bears it. -/
theorem find?_eq_some_iff_of_nodup {key : α → String} {items : List α}
    (distinct : (items.map key).Nodup) {id : String} {item : α} :
    items.find? (key · == id) = some item ↔ item ∈ items ∧ key item = id := by
  constructor
  · intro found
    exact ⟨List.mem_of_find?_eq_some found, by simpa using List.find?_some found⟩
  · rintro ⟨member, rfl⟩
    induction items with
    | nil => cases member
    | cons first rest ih =>
      rw [List.map_cons, List.nodup_cons] at distinct
      obtain ⟨apart, distinct⟩ := distinct
      rcases List.mem_cons.1 member with rfl | member
      · simp
      · -- the first item bears another key, that of the item being that of no other
        have other : key first ≠ key item := fun same =>
          apart (same ▸ List.mem_map_of_mem member)
        rw [List.find?_cons_of_neg (by simpa using other)]
        exact ih distinct member

theorem find?_eq_none_iff_of_key {key : α → String} {items : List α} {id : String} :
    items.find? (key · == id) = none ↔ id ∉ items.map key := by
  simp [List.find?_eq_none]

end

/-- What a value lists, nothing when nothing is given. -/
def Value.Lists (v : Value) (items : List Value) : Prop :=
  (v.orElse (.ofList [])).items = .ok items

namespace Value

theorem lists_list (mark : Option Nat) (items : List Value) : (@list mark items).Lists items := by
  unfold Lists orElse
  cases items with
  | nil => rfl
  | cons item rest => rfl

theorem Lists.unique {v : Value} {items others : List Value} (one : v.Lists items)
    (other : v.Lists others) : items = others := by
  unfold Lists at one other
  rw [one] at other
  exact Except.ok.inj other

end Value

theorem Exit.check_eq_ok_iff {exit checked : Exit} :
    exit.check = .ok checked ↔
      checked = exit ∧ (exit.target.isNull = false ∨ exit.action.isSome = true) ∧
        1 ≤ exit.distance := by
  unfold check
  constructor
  · intro accepted
    split at accepted
    · cases accepted
    · rename_i given
      split at accepted
      · cases accepted
      · rename_i positive
        cases accepted
        rcases Bool.and_eq_false_iff.1 (Bool.eq_false_iff.2 given) with led | acts
        · exact ⟨rfl, .inl led, Int.not_lt.1 positive⟩
        · exact ⟨rfl, .inr (Option.isNone_eq_false_iff.1 acts), Int.not_lt.1 positive⟩
  · rintro ⟨rfl, given, positive⟩
    rw [if_neg, if_neg (Int.not_lt.2 positive)]
    rcases given with led | acts
    · simp [led]
    · rw [Option.isNone_eq_false_iff.2 acts]
      simp

namespace Site

theorem readEvents_eq_ok_iff {shared : List Event} {site : String} {position : Nat}
    {items : List Value} {events : List Event} :
    readEvents shared site position items = .ok events ↔
      List.Forall₂ (fun item event => readEvent shared site item.2 item.1 = .ok event)
        (items.zipIdx position) events := by
  induction items generalizing position events with
  | nil =>
    constructor
    · intro done
      cases done
      exact .nil
    · intro each
      cases each
      rfl
  | cons item rest ih =>
    rw [List.zipIdx_cons]
    constructor
    · intro done
      obtain ⟨event, first, done⟩ := bind_eq_ok done
      obtain ⟨others, later, made⟩ := bind_eq_ok done
      cases made
      exact .cons first (ih.1 later)
    · intro each
      cases each with
      | cons first later =>
        rw [readEvents, first, ih.2 later]
        rfl

end Site

namespace Script

theorem checkDistinct_eq_ok_iff {kind : String} {seen ids : List String} :
    checkDistinct kind seen ids = .ok () ↔ ids.Nodup ∧ ∀ id ∈ ids, id ∉ seen := by
  induction ids generalizing seen with
  | nil => simp [checkDistinct]
  | cons id rest ih =>
    unfold checkDistinct
    split
    · rename_i met
      simp [met]
    · rename_i fresh
      rw [ih, List.nodup_cons]
      constructor
      · rintro ⟨distinct, apart⟩
        refine ⟨⟨fun again => apart id again (by simp), distinct⟩, fun other member => ?_⟩
        rcases List.mem_cons.1 member with rfl | member
        · exact fresh
        · exact fun met => apart other member (List.mem_cons_of_mem _ met)
      · rintro ⟨⟨once, distinct⟩, apart⟩
        refine ⟨distinct, fun other member met => ?_⟩
        rcases List.mem_cons.1 met with rfl | met
        · exact once member
        · exact apart other (List.mem_cons_of_mem _ member) met

/-- A script as the lists and the entry that it was read from. -/
structure ReadAs (events sites : List Value) (entry : Value) (script : Script) : Prop where
  events : List.Forall₂ (fun item event => Event.read item = .ok event) events script.events
  sites : List.Forall₂ (fun item site => Site.read script.events item = .ok site) sites script.sites
  entry : readEntry entry = .ok script.entry
  eventIds : (script.events.map (·.id)).Nodup
  siteIds : (script.sites.map (·.id)).Nodup

theorem exists_of_read {v : Value} {script : Script} (read : Script.read v = .ok script) :
    ∃ mark entries events sites, v = @Value.mapping mark entries ∧
      (Entries.getD entries "events" .null).Lists events ∧
      (Entries.getD entries "sites" .null).Lists sites := by
  obtain ⟨entries, mapping, read⟩ := bind_eq_ok read
  obtain ⟨events, listed, read⟩ := bind_eq_ok read
  obtain ⟨_, _, read⟩ := bind_eq_ok read
  obtain ⟨_, _, read⟩ := bind_eq_ok read
  obtain ⟨sites, sited, _⟩ := bind_eq_ok read
  cases v with
  | mapping own =>
    cases mapping
    exact ⟨_, entries, events, sites, rfl, listed, sited⟩
  | _ => cases mapping

/-- Reading is reading each item, with the ids of each kind told apart. -/
theorem read_eq_ok_iff {mark : Option Nat} {entries : Entries} {events sites : List Value}
    (listed : (Entries.getD entries "events" .null).Lists events)
    (sited : (Entries.getD entries "sites" .null).Lists sites) {script : Script} :
    Script.read (@Value.mapping mark entries) = .ok script ↔
      ReadAs events sites (Entries.getD entries "entry" .null) script := by
  constructor
  · intro read
    obtain ⟨_, mapping, read⟩ := bind_eq_ok read
    cases mapping
    obtain ⟨_, again, read⟩ := bind_eq_ok read
    cases listed.unique again
    obtain ⟨ownEvents, readEvents, read⟩ := bind_eq_ok read
    obtain ⟨⟨⟩, eventIds, read⟩ := bind_eq_ok read
    obtain ⟨_, again, read⟩ := bind_eq_ok read
    cases sited.unique again
    obtain ⟨ownSites, readSites, read⟩ := bind_eq_ok read
    obtain ⟨entry, readEntry, read⟩ := bind_eq_ok read
    obtain ⟨⟨⟩, siteIds, made⟩ := bind_eq_ok read
    cases made
    exact ⟨mapM_eq_ok_iff.1 readEvents, mapM_eq_ok_iff.1 readSites, readEntry,
      (checkDistinct_eq_ok_iff.1 eventIds).1, (checkDistinct_eq_ok_iff.1 siteIds).1⟩
  · intro as
    have eventIds : checkDistinct "event" [] (script.events.map (·.id)) = .ok () :=
      checkDistinct_eq_ok_iff.2 ⟨as.eventIds, by simp⟩
    have siteIds : checkDistinct "site" [] (script.sites.map (·.id)) = .ok () :=
      checkDistinct_eq_ok_iff.2 ⟨as.siteIds, by simp⟩
    unfold Value.Lists at listed sited
    simp only [Script.read, Value.entries, bind, Except.bind, listed, sited,
      mapM_eq_ok_iff.2 as.events, mapM_eq_ok_iff.2 as.sites, as.entry, eventIds, siteIds]
    rfl

variable {script : Script}

theorem findSite?_eq_some_iff (siteIds : (script.sites.map (·.id)).Nodup) {id : String} {site : Site} :
    script.findSite? id = some site ↔ site ∈ script.sites ∧ site.id = id :=
  find?_eq_some_iff_of_nodup siteIds

theorem findEvent?_eq_some_iff (eventIds : (script.events.map (·.id)).Nodup) {id : String}
    {event : Event} : script.findEvent? id = some event ↔ event ∈ script.events ∧ event.id = id :=
  find?_eq_some_iff_of_nodup eventIds

end Script

end Gamebook
