import Gamebook.Script.Site

/-! A whole script: its sites, its shared events and its entry. -/

set_option autoImplicit false

namespace Gamebook

/-- Where a session begins, and the story told there. -/
structure Entry where
  site : String
  story : String := ""

structure Script where
  sites : List Site
  events : List Event
  entry : Entry

namespace Script

def checkDistinct (kind : String) : List String → List String → Except Fault Unit
  | _, [] => .ok ()
  | seen, id :: rest =>
    if id ∈ seen then .error (.malformed (.duplicate kind id))
    else checkDistinct kind (id :: seen) rest

def readEntry (v : Value) : Except Fault Entry := do
  if v.isNull then throw (.malformed .noEntry)
  let entries ← v.entries
  let site := entries.getD "site" .null
  if !site.isTruthy then throw (.malformed .entryWithoutSite)
  return { site := ← site.toText, story := ← (entries.getD "story" "").toText }

def read (v : Value) : Except Fault Script := do
  let entries ← v.entries
  let siteItems := (entries.getD "sites" .null).orElse (.ofList [])
  let eventItems := (entries.getD "events" .null).orElse (.ofList [])
  let events ← (← eventItems.items).mapM Event.read
  checkDistinct "event" [] (events.map (·.id))
  let sites ← (← siteItems.items).mapM (Site.read events)
  let entry ← readEntry (entries.getD "entry" .null)
  checkDistinct "site" [] (sites.map (·.id))
  return { sites, events, entry }

def findSite? (script : Script) (id : String) : Option Site :=
  script.sites.find? (·.id == id)

def findEvent? (script : Script) (id : String) : Option Event :=
  Event.find? script.events id

-- The site that a value names. Only texts are ids; a list or mapping is not even asked for.
def site? (script : Script) (id : Value) : Except Fault (Option Site) :=
  id.asName?.map fun name? => name?.bind script.findSite?

def site (script : Script) (id : Value) : Except Fault Site := do
  match ← script.site? id with
  | some site => return site
  | none => throw (.unknownSite id)

def event (script : Script) (id : Value) : Except Fault Event := do
  match ← id.asName? with
  | some name =>
    match script.findEvent? name with
    | some event => return event
    | none => throw (.unknownEvent id)
  | none => throw (.unknownEvent id)

theorem id_of_findSite? {script : Script} {id : String} {site : Site}
    (found : script.findSite? id = some site) : site.id = id := by
  simpa using List.find?_some found

theorem mem_of_findSite? {script : Script} {id : String} {site : Site}
    (found : script.findSite? id = some site) : site ∈ script.sites :=
  List.mem_of_find?_eq_some found

theorem site_text (script : Script) (id : String) :
    script.site (.text id) =
      match script.findSite? id with
      | some site => .ok site
      | none => .error (.unknownSite (.text id)) := by
  unfold site site? Value.asName?
  cases listed : script.findSite? id with
  | none => simp [Except.map, bind, Except.bind, listed]; rfl
  | some site => simp [Except.map, bind, Except.bind, listed]; rfl

theorem event_text (script : Script) (id : String) :
    script.event (.text id) =
      match script.findEvent? id with
      | some event => .ok event
      | none => .error (.unknownEvent (.text id)) := by
  unfold event Value.asName?
  simp only [bind, Except.bind]
  cases script.findEvent? id with
  | none => rfl
  | some event => rfl

theorem findSite?_of_site {script : Script} {id : Value} {site : Site}
    (found : script.site id = .ok site) :
    id = .text site.id ∧ script.findSite? site.id = some site := by
  cases id with
  | text name =>
    rw [site_text] at found
    split at found
    · rename_i other listed
      cases found
      rw [id_of_findSite? listed]
      exact ⟨rfl, listed⟩
    · cases found
  | _ => cases found

def entrySite (script : Script) : Except Fault Site :=
  match script.findSite? script.entry.site with
  | some site => .ok site
  | none => .error (.missingEntry script.entry.site)

end Script

end Gamebook
