import Gamebook.Proofs.Script.Description

/-! Scripts that have been read are well formed.

Their ids are given and told apart, so looking one up finds what was written under it; events resolve,
and exits lead somewhere. Data that fall short of this cannot be read.
-/

set_option autoImplicit false

namespace Gamebook

namespace Script

/-- Ids are given and told apart, and each exit leads somewhere or does something, over some
distance. -/
structure WellFormed (script : Script) : Prop where
  siteIds : (script.sites.map (·.id)).Nodup
  sitesNamed : ∀ site ∈ script.sites, site.id ≠ ""
  eventIds : (script.events.map (·.id)).Nodup
  eventsNamed : ∀ event ∈ script.events, event.id ≠ ""
  exits : ∀ site ∈ script.sites, ∀ exit ∈ site.exits,
    (exit.target.isNull = false ∨ exit.action.isSome = true) ∧ 1 ≤ exit.distance

/-- Data that describe no script: an id is given twice, an event of a site is not among the shared
ones, or an exit neither leads nor acts. -/
inductive Flawed (v : Value) : Prop where
  | site {sites : List Value} (sited : (v.field "sites").Lists sites)
      (twice : ¬(sites.filterMap Value.id?).Nodup)
  | event {events : List Value} (listed : (v.field "events").Lists events)
      (twice : ¬(events.filterMap Value.id?).Nodup)
  | reference {sites events items : List Value} {site : Value} {id : String}
      (sited : (v.field "sites").Lists sites) (listed : (v.field "events").Lists events)
      (member : site ∈ sites) (own : (site.field "events").Lists items) (named : .text id ∈ items)
      (missing : id ∉ events.filterMap Value.id?)
  | exit {sites items : List Value} {site exit : Value}
      (sited : (v.field "sites").Lists sites) (member : site ∈ sites)
      (led : (site.field "ports").Lists items) (listed : exit ∈ items)
      (nowhere : exit.field "target" = .null) (idle : exit.field "action" = .null)

variable {v : Value} {script : Script}

theorem From.siteIds_eq (data : Script.From v script) {items : List Value}
    (sited : (v.field "sites").Lists items) :
    items.filterMap Value.id? = script.sites.map (·.id) := by
  obtain ⟨_, again, sites⟩ := data.sites
  cases sited.unique again
  exact filterMap_eq_map (sites.imp fun item site own => own.id)

theorem From.eventIds_eq (data : Script.From v script) {items : List Value}
    (listed : (v.field "events").Lists items) :
    items.filterMap Value.id? = script.events.map (·.id) := by
  obtain ⟨_, again, events⟩ := data.events
  cases listed.unique again
  refine filterMap_eq_map (events.imp ?_)
  rintro item event ⟨id, gives, own⟩
  rw [gives, own.id]

theorem From.wellFormed (data : Script.From v script) : script.WellFormed := by
  obtain ⟨_, _, events⟩ := data.events
  obtain ⟨_, _, sites⟩ := data.sites
  refine ⟨data.siteIds, fun site member => ?_, data.eventIds, fun event member => ?_,
    fun site member exit listed => ?_⟩
  · obtain ⟨item, _, own⟩ := exists_of_mem_right sites member
    exact Value.ne_empty_of_asId? own.id
  · obtain ⟨item, _, id, gives, own⟩ := exists_of_mem_right events member
    rw [own.id]
    exact Value.ne_empty_of_asId? gives
  · obtain ⟨item, _, own⟩ := exists_of_mem_right sites member
    obtain ⟨_, _, exits⟩ := own.exits
    obtain ⟨_, _, led⟩ := exists_of_mem_right exits listed
    exact ⟨led.leads, led.far⟩

theorem From.not_flawed (data : Script.From v script) : ¬Flawed v := by
  intro flawed
  cases flawed with
  | site sited twice =>
    rw [data.siteIds_eq sited] at twice
    exact twice data.siteIds
  | event listed twice =>
    rw [data.eventIds_eq listed] at twice
    exact twice data.eventIds
  | @reference _ _ items site id sited listed member own named missing =>
    rw [data.eventIds_eq listed] at missing
    obtain ⟨_, again, sites⟩ := data.sites
    cases sited.unique again
    obtain ⟨read, _, site⟩ := exists_of_mem_left sites member
    obtain ⟨_, again, events⟩ := site.events
    cases own.unique again
    obtain ⟨position, place, found⟩ := List.getElem_of_mem named
    have placed : (.text id, position) ∈ items.zipIdx :=
      List.mk_mem_zipIdx_iff_getElem?.2 (List.getElem?_eq_some_iff.2 ⟨place, found⟩)
    obtain ⟨event, _, resolved⟩ := exists_of_mem_left events placed
    cases resolved with
    | shared found =>
      obtain ⟨member, rfl⟩ := (findEvent?_eq_some_iff data.eventIds).1 found
      exact missing (List.mem_map_of_mem member)
    | own gives _ => cases gives
  | exit sited member led listed nowhere idle =>
    obtain ⟨_, again, sites⟩ := data.sites
    cases sited.unique again
    obtain ⟨read, _, site⟩ := exists_of_mem_left sites member
    obtain ⟨_, again, exits⟩ := site.exits
    cases led.unique again
    obtain ⟨exit, _, own⟩ := exists_of_mem_left exits listed
    have action := own.action
    rw [idle] at action
    have leads := own.leads
    rw [own.target, nowhere, ← Except.ok.inj action] at leads
    rcases leads with led | acts
    · cases led
    · cases acts

/-- A script that can be read holds what its data say, one for one and in order; it is well formed, and
looking an id up finds what was written under it, if anything was. Flawed data cannot be read. -/
theorem read_wellFormed (v : Value) :
    (∀ script, Script.read v = .ok script →
      Script.From v script ∧ script.WellFormed ∧
        (∀ id site, script.findSite? id = some site ↔ site ∈ script.sites ∧ site.id = id) ∧
        (∀ id event, script.findEvent? id = some event ↔ event ∈ script.events ∧ event.id = id) ∧
        (∀ items, (v.field "sites").Lists items → ∀ id,
          script.findSite? id = none ↔ id ∉ items.filterMap Value.id?) ∧
        (∀ items, (v.field "events").Lists items → ∀ id,
          script.findEvent? id = none ↔ id ∉ items.filterMap Value.id?)) ∧
    (Flawed v → ∃ fault, Script.read v = .error fault) := by
  constructor
  · intro script read
    have data := read_iff.1 read
    refine ⟨data, data.wellFormed, fun _ _ => findSite?_eq_some_iff data.siteIds,
      fun _ _ => findEvent?_eq_some_iff data.eventIds, fun items sited id => ?_,
      fun items listed id => ?_⟩
    · rw [data.siteIds_eq sited]
      exact find?_eq_none_iff_of_key
    · rw [data.eventIds_eq listed]
      exact find?_eq_none_iff_of_key
  · intro flawed
    cases read : Script.read v with
    | error fault => exact ⟨fault, rfl⟩
    | ok script => exact absurd flawed (read_iff.1 read).not_flawed

end Script

def Value.twoTowns : Value :=
  .ofEntries [
    ("events", .ofList [
      .ofEntries [("id", "fog"), ("text", "Fog rises.")],
      .ofEntries [("id", "rain"), ("text", "It rains.")]]),
    ("sites", .ofList [
      .ofEntries [("id", "ford"), ("ports", .ofList [.ofEntries [("target", "mill")]]),
        ("events", .ofList ["rain", .ofEntries [("text", "A frog croaks.")]])],
      .ofEntries [("id", "mill"), ("ports", .ofList [.ofEntries [("target", "ford")]])]]),
    ("entry", .ofEntries [("site", "ford")])]

def Value.oneTownTwice : Value :=
  .ofEntries [
    ("sites", .ofList [.ofEntries [("id", .int 1)], .ofEntries [("id", "1")]]),
    ("entry", .ofEntries [("site", "1")])]

theorem Script.read_wellFormed_twoTowns :
    (∃ script, Script.read Value.twoTowns = .ok script ∧ script.WellFormed ∧
      (∃ site ∈ script.sites, site.id = "mill") ∧ script.findEvent? "ford_event_1" = none) ∧
    ∃ fault, Script.read Value.oneTownTwice = .error fault := by
  obtain ⟨script, read⟩ : ∃ script, Script.read Value.twoTowns = .ok script := ⟨_, rfl⟩
  obtain ⟨accepted, -⟩ := read_wellFormed Value.twoTowns
  obtain ⟨-, wellFormed, sites, -, noSite, noEvent⟩ := accepted script read
  refine ⟨⟨script, read, wellFormed, ?_, ?_⟩, ?_⟩
  · cases mill : script.findSite? "mill" with
    | none => exact absurd ((noSite _ (Value.lists_list _ _) _).1 mill) (by decide +kernel)
    | some site => exact ⟨site, (sites "mill" site).1 mill⟩
  · exact (noEvent _ (Value.lists_list _ _) _).2 (by decide +kernel)
  · exact (read_wellFormed Value.oneTownTwice).2
      (.site (Value.lists_list _ _) (by decide +kernel))

end Gamebook
