import Gamebook.Proofs.Script.Reading

/-! What a script is to the data that it is read from.

The relations `From` say it field by field, and without an order of reading: `Script.read_iff` has it
that reading succeeds just where they hold.
-/

set_option autoImplicit false

namespace Gamebook

theorem Layout.decimal_ne_empty (layout : Layout) (d : Decimal) : layout.decimal d ≠ "" := by
  unfold decimal
  split
  · split <;> simp
  · simp only [ne_eq, String.append_eq_empty_iff, not_and]
    rintro ⟨_, marked⟩
    split at marked <;> simp at marked

theorem Layout.float_ne_empty (layout : Layout) (x : Float) : layout.float x ≠ "" := by
  unfold float
  split
  · split
    · decide
    · split <;> decide
  · simp only [ne_eq, String.append_eq_empty_iff, not_and]
    intro _
    split
    · decide
    · exact layout.decimal_ne_empty _

namespace Value

/-- What a mapping holds under a name, the default where it holds nothing. -/
def fieldOr (v : Value) (name : String) (default : Value) : Value :=
  match v with
  | .mapping entries => Entries.getD entries name default
  | _ => default

def field (v : Value) (name : String) : Value := v.fieldOr name .null

/-- The id that a value gives: it counts as given, and it can be written. -/
def asId? (v : Value) : Option String :=
  if v.isTruthy then v.toText.toOption else none

def id? (v : Value) : Option String := (v.field "id").asId?

theorem asId?_eq_some_iff {v : Value} {id : String} :
    v.asId? = some id ↔ v.isTruthy = true ∧ v.toText = .ok id := by
  unfold asId?
  split
  · rename_i given
    cases v.toText with
    | error fault => simp [Except.toOption]
    | ok text => simp [Except.toOption, given]
  · rename_i given
    simp [given]

theorem toString_int_ne_empty (n : Int) : toString n ≠ "" := by
  cases n with
  | ofNat m =>
    change Nat.repr m ≠ ""
    simp [Nat.repr]
  | negSucc m =>
    change "-" ++ Nat.repr (m + 1) ≠ ""
    simp

theorem display_ne_empty {v : Value} (given : v.isTruthy = true) : v.display ≠ "" := by
  cases v with
  | null => cases given
  | bool b =>
    cases given
    decide
  | int n => exact toString_int_ne_empty n
  | float x => exact Layout.float_ne_empty _ x
  | text s =>
    rintro rfl
    cases given
  | list items =>
    simp only [display, literal, literalWithin]
    split <;> simp
  | mapping entries =>
    simp only [display, literal, literalWithin]
    split <;> simp

theorem ne_empty_of_asId? {v : Value} {id : String} (gives : v.asId? = some id) : id ≠ "" := by
  obtain ⟨given, written⟩ := asId?_eq_some_iff.1 gives
  unfold toText at written
  split at written
  · cases written
    exact display_ne_empty given
  · cases written

/-- Only a mapping gives an id. -/
theorem exists_of_id? {v : Value} {id : String} (gives : v.id? = some id) :
    ∃ mark entries, v = @mapping mark entries := by
  cases v with
  | mapping entries => exact ⟨_, entries, rfl⟩
  | _ => cases gives

theorem contains_of_id? {mark : Option Nat} {entries : Entries} {id : String}
    (gives : (@mapping mark entries).id? = some id) : Entries.contains entries "id" = true := by
  unfold id? field fieldOr Entries.getD at gives
  unfold Entries.contains
  cases found : Entries.get? entries "id" with
  | some given => rfl
  | none =>
    simp only [found] at gives
    cases gives

end Value

structure Exit.From (v : Value) (exit : Exit) : Prop where
  target : exit.target = v.field "target"
  name : exit.name = v.field "name"
  action : Event.readAction? (v.field "action") = .ok exit.action
  distance : (v.fieldOr "distance" (.int 1)).toInt = .ok exit.distance
  leads : exit.target.isNull = false ∨ exit.action.isSome = true
  far : 1 ≤ exit.distance

/-- An event as its data give it, under the id that it goes by. -/
structure Event.From (name : String) (v : Value) (event : Event) : Prop where
  id : event.id = name
  weight : Event.readWeight (.text name) (v.field "weight") = .ok event.weight
  text : event.text = v.field "text"
  choices : Event.readChoices? (v.field "options") = .ok event.choices
  action : Event.readAction? (v.field "action") = .ok event.action

/-- An event of a site: a text names a shared event; all else is an event of its own, which goes by
its place when no id is given. -/
inductive Site.EventFrom (shared : List Event) (site : String) (position : Nat) :
    Value → Event → Prop where
  | shared {id : String} {event : Event} (found : Event.find? shared id = some event) :
      EventFrom shared site position (.text id) event
  | own {v : Value} {id : String} {event : Event} (gives : v.id? = some id)
      (data : Event.From id v event) : EventFrom shared site position v event
  | placed {mark : Option Nat} {entries : Entries} {event : Event}
      (nameless : Entries.contains entries "id" = false)
      (data : Event.From (Site.eventId site position) (@Value.mapping mark entries) event) :
      EventFrom shared site position (@Value.mapping mark entries) event

structure Site.From (shared : List Event) (v : Value) (site : Site) : Prop where
  id : v.id? = some site.id
  name : (v.fieldOr "name" (.text site.id)).toText = .ok site.name
  exits : ∃ items, (v.field "ports").Lists items ∧ List.Forall₂ Exit.From items site.exits
  events : ∃ items, (v.field "events").Lists items ∧
    List.Forall₂ (fun item event => Site.EventFrom shared site.id item.2 item.1 event)
      items.zipIdx site.events

structure Entry.From (v : Value) (entry : Entry) : Prop where
  site : (v.field "site").asId? = some entry.site
  story : (v.fieldOr "story" "").toText = .ok entry.story

structure Script.From (v : Value) (script : Script) : Prop where
  events : ∃ items, (v.field "events").Lists items ∧
    List.Forall₂ (fun item event => ∃ id, item.id? = some id ∧ Event.From id item event)
      items script.events
  sites : ∃ items, (v.field "sites").Lists items ∧
    List.Forall₂ (Site.From script.events) items script.sites
  entry : Entry.From (v.field "entry") script.entry
  eventIds : (script.events.map (·.id)).Nodup
  siteIds : (script.sites.map (·.id)).Nodup

namespace Exit

theorem read_iff {v : Value} {exit : Exit} : Exit.read v = .ok exit ↔ Exit.From v exit := by
  constructor
  · intro read
    obtain ⟨entries, mapping, read⟩ := bind_eq_ok read
    obtain ⟨action?, action, read⟩ := bind_eq_ok read
    obtain ⟨distance, far, accepted⟩ := bind_eq_ok read
    obtain ⟨rfl, leads, positive⟩ := check_eq_ok_iff.1 accepted
    cases v with
    | mapping own =>
      cases mapping
      exact ⟨rfl, rfl, action, far, leads, positive⟩
    | _ => cases mapping
  · rintro ⟨target, name, action, distance, leads, far⟩
    cases v with
    | mapping entries =>
      have whole : { exit with
          target := Entries.getD entries "target" .null
          name := Entries.getD entries "name" .null } = exit := by
        rw [show Entries.getD entries "target" .null = exit.target from target.symm,
          show Entries.getD entries "name" .null = exit.name from name.symm]
      change (Event.readAction? (Entries.getD entries "action" .null) >>= _) = _
      rw [show Event.readAction? (Entries.getD entries "action" .null) = _ from action]
      change ((Entries.getD entries "distance" (.int 1)).toInt >>= _) = _
      rw [show (Entries.getD entries "distance" (.int 1)).toInt = _ from distance]
      exact (congrArg check whole).trans (check_eq_ok_iff.2 ⟨rfl, leads, far⟩)
    | _ =>
      -- what is no mapping neither leads nor acts
      rw [target, ← Except.ok.inj action] at leads
      rcases leads with led | acts
      · cases led
      · cases acts

end Exit

namespace Event

/-- The id of an event counts in what its weight is refused for, not in the weight. -/
theorem readWeight_of_eq_ok {id other weight : Value} {x : Float}
    (read : readWeight id weight = .ok x) : readWeight other weight = .ok x := by
  unfold readWeight at read ⊢
  split at read
  · exact read
  · cases read
  · split at read
    · exact read
    · cases read
    · cases read

theorem read_iff {v : Value} {event : Event} :
    Event.read v = .ok event ↔ ∃ id, v.id? = some id ∧ From id v event := by
  constructor
  · intro read
    cases v with
    | mapping entries =>
      simp only [Event.read] at read
      split at read
      · cases read
      · rename_i given
        have given : (Entries.getD entries "id" .null).isTruthy = true := by simpa using given
        obtain ⟨id, gives, read⟩ := bind_eq_ok read
        obtain ⟨weight, weighed, read⟩ := bind_eq_ok read
        obtain ⟨choices, offered, read⟩ := bind_eq_ok read
        obtain ⟨action, done, made⟩ := bind_eq_ok read
        cases made
        exact ⟨id, Value.asId?_eq_some_iff.2 ⟨given, gives⟩,
          rfl, readWeight_of_eq_ok weighed, rfl, offered, done⟩
    | _ => cases read
  · rintro ⟨id, gives, named, weight, text, choices, action⟩
    obtain ⟨mark, entries, rfl⟩ := Value.exists_of_id? gives
    obtain ⟨given, gives⟩ := Value.asId?_eq_some_iff.1 gives
    simp only [Value.field, Value.fieldOr] at *
    simp only [Event.read, given, gives, choices, action, readWeight_of_eq_ok weight]
    subst named
    rw [← text]
    rfl

theorem From.congr {name : String} {v w : Value} {event : Event}
    (same : ∀ field, field ≠ "id" → v.field field = w.field field) (data : From name v event) :
    From name w event := by
  obtain ⟨id, weight, text, choices, action⟩ := data
  rw [same _ (by decide)] at weight text choices action
  exact ⟨id, weight, text, choices, action⟩

end Event

theorem Entries.get?_append (entries others : Entries) (name : String) :
    Entries.get? (entries ++ others) name = (Entries.get? entries name).or (Entries.get? others name) := by
  induction entries with
  | nil => rfl
  | cons entry rest ih =>
    obtain ⟨k, v⟩ := entry
    simp only [List.cons_append, Entries.get?]
    split
    · rfl
    · exact ih

namespace Site

theorem eventId_ne_empty (site : String) (position : Nat) : eventId site position ≠ "" := by
  unfold eventId
  simp

/-- An event written without an id is read under the id of its place. -/
theorem read_placed_iff {mark : Option Nat} {entries : Entries} {site : String} {position : Nat}
    {event : Event} (nameless : Entries.contains entries "id" = false) :
    Event.read (.ofEntries (entries ++ [(.text "id", .text (eventId site position))])) = .ok event ↔
      Event.From (eventId site position) (@Value.mapping mark entries) event := by
  have missing : Entries.get? entries "id" = none := by
    simpa [Entries.contains] using nameless
  have gives : (Value.ofEntries (entries ++ [(.text "id", .text (eventId site position))])).id? =
      some (eventId site position) := by
    refine Value.asId?_eq_some_iff.2 ?_
    simp [Value.ofEntries, Value.field, Value.fieldOr, Entries.getD, Entries.get?_append, missing,
      Entries.get?, Value.isText, Value.isTruthy, eventId_ne_empty]
  have same : ∀ field, field ≠ "id" →
      (Value.ofEntries (entries ++ [(.text "id", .text (eventId site position))])).field field =
        (@Value.mapping mark entries).field field := by
    intro field other
    have apart : (Value.text "id").isText field = false := by
      simpa [Value.isText] using other.symm
    simp [Value.ofEntries, Value.field, Value.fieldOr, Entries.getD, Entries.get?_append,
      Entries.get?, apart]
  rw [Event.read_iff]
  constructor
  · rintro ⟨id, again, data⟩
    rw [gives] at again
    cases again
    exact Event.From.congr same data
  · intro data
    exact ⟨_, gives, Event.From.congr (fun field other => (same field other).symm) data⟩

theorem readEvent_iff {shared : List Event} {site : String} {position : Nat} {v : Value}
    {event : Event} :
    readEvent shared site position v = .ok event ↔ EventFrom shared site position v event := by
  constructor
  · intro read
    unfold readEvent at read
    split at read
    · split at read
      · rename_i found
        cases read
        exact .shared found
      · cases read
    · split at read
      · obtain ⟨id, gives, data⟩ := Event.read_iff.1 read
        exact .own gives data
      · rename_i nameless
        have nameless := Bool.eq_false_iff.2 nameless
        exact .placed nameless ((read_placed_iff nameless).1 read)
    · obtain ⟨id, gives, data⟩ := Event.read_iff.1 read
      exact .own gives data
  · intro data
    cases data with
    | shared found => rw [readEvent, found]
    | own gives data =>
      obtain ⟨mark, entries, rfl⟩ := Value.exists_of_id? gives
      rw [readEvent, if_pos (Value.contains_of_id? gives)]
      exact Event.read_iff.2 ⟨_, gives, data⟩
    | placed nameless data =>
      rw [readEvent, nameless]
      exact (read_placed_iff nameless).2 data

theorem read_iff {shared : List Event} {v : Value} {site : Site} :
    Site.read shared v = .ok site ↔ Site.From shared v site := by
  constructor
  · intro read
    cases v with
    | mapping entries =>
      simp only [Site.read] at read
      split at read
      · cases read
      · rename_i given
        have given : (Entries.getD entries "id" .null).isTruthy = true := by simpa using given
        obtain ⟨id, gives, read⟩ := bind_eq_ok read
        obtain ⟨eventItems, listed, read⟩ := bind_eq_ok read
        obtain ⟨events, readEvents, read⟩ := bind_eq_ok read
        obtain ⟨name, named, read⟩ := bind_eq_ok read
        obtain ⟨exitItems, led, read⟩ := bind_eq_ok read
        obtain ⟨exits, readExits, made⟩ := bind_eq_ok read
        cases made
        refine ⟨Value.asId?_eq_some_iff.2 ⟨given, gives⟩, named, ⟨exitItems, led, ?_⟩,
          eventItems, listed, ?_⟩
        · exact (mapM_eq_ok_iff.1 readExits).imp fun item exit => Exit.read_iff.1
        · exact (readEvents_eq_ok_iff.1 readEvents).imp fun item event => readEvent_iff.1
    | _ => cases read
  · rintro ⟨gives, named, ⟨exitItems, led, exits⟩, eventItems, listed, events⟩
    obtain ⟨mark, entries, rfl⟩ := Value.exists_of_id? gives
    obtain ⟨given, gives⟩ := Value.asId?_eq_some_iff.1 gives
    have readExits : exitItems.mapM Exit.read = .ok site.exits :=
      mapM_eq_ok_iff.2 (exits.imp fun item exit => Exit.read_iff.2)
    have readEvents : readEvents shared site.id 0 eventItems = .ok site.events :=
      readEvents_eq_ok_iff.2 (events.imp fun item event => readEvent_iff.2)
    unfold Value.Lists at led listed
    simp only [Value.field, Value.fieldOr] at given gives named led listed
    simp only [Site.read, given, bind, Except.bind, gives, listed, readEvents, named, led, readExits]
    rfl

end Site

theorem Script.readEntry_mapping (mark : Option Nat) (entries : Entries) :
    readEntry (@Value.mapping mark entries) =
      if (Entries.getD entries "site" .null).isTruthy then do
        let site ← (Entries.getD entries "site" .null).toText
        let story ← (Entries.getD entries "story" "").toText
        return { site, story }
      else .error (.malformed .entryWithoutSite) := by
  change (if (!(Entries.getD entries "site" .null).isTruthy) = true then _ else _) = _
  cases (Entries.getD entries "site" .null).isTruthy <;> rfl

theorem Entry.read_iff {v : Value} {entry : Entry} :
    Script.readEntry v = .ok entry ↔ Entry.From v entry := by
  constructor
  · intro read
    cases v with
    | mapping entries =>
      rw [Script.readEntry_mapping] at read
      split at read
      · rename_i given
        obtain ⟨site, gives, read⟩ := bind_eq_ok read
        obtain ⟨story, told, made⟩ := bind_eq_ok read
        cases made
        exact ⟨Value.asId?_eq_some_iff.2 ⟨given, gives⟩, told⟩
      · cases read
    | _ => cases read
  · rintro ⟨gives, told⟩
    cases v with
    | mapping entries =>
      obtain ⟨given, gives⟩ := Value.asId?_eq_some_iff.1 gives
      simp only [Value.field, Value.fieldOr] at given gives told
      rw [Script.readEntry_mapping, if_pos given, gives, told]
      rfl
    | _ => cases gives

namespace Script

theorem read_iff {v : Value} {script : Script} :
    Script.read v = .ok script ↔ Script.From v script := by
  constructor
  · intro read
    obtain ⟨mark, entries, eventItems, siteItems, rfl, listed, sited⟩ := exists_of_read read
    obtain ⟨events, sites, entry, eventIds, siteIds⟩ := (read_eq_ok_iff listed sited).1 read
    exact ⟨⟨eventItems, listed, events.imp fun item event => Event.read_iff.1⟩,
      ⟨siteItems, sited, sites.imp fun item site => Site.read_iff.1⟩, Entry.read_iff.1 entry,
      eventIds, siteIds⟩
  · rintro ⟨⟨eventItems, listed, events⟩, ⟨siteItems, sited, sites⟩, entry, eventIds, siteIds⟩
    cases v with
    | mapping entries =>
      exact (read_eq_ok_iff listed sited).2
        ⟨events.imp fun item event => Event.read_iff.2, sites.imp fun item site => Site.read_iff.2,
          Entry.read_iff.2 entry, eventIds, siteIds⟩
    | _ => cases entry.site

end Script

end Gamebook
