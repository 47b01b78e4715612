import Gamebook.Proofs.Script.Part

/-! Data that are read as one and the same.

Reading forgets nothing of the parts that it goes through. So when data in which one part is changed are
read as one script, that part is read as one thing too: `Altered.agree`.
-/

set_option autoImplicit false

namespace Gamebook

/-- Two values come to one and the same. -/
def Meets {α β : Type} (R : α → β → Prop) (v w : α) : Prop := ∃ b, R v b ∧ R w b

theorem forall₂_meets {α β : Type} {R : α → β → Prop} {items others : List α} {results : List β}
    (each : List.Forall₂ R items results) (other : List.Forall₂ R others results) :
    List.Forall₂ (Meets R) items others := by
  induction each generalizing others with
  | nil =>
    cases other
    exact .nil
  | cons first _ ih =>
    cases other with
    | cons also rest => exact .cons ⟨_, first, also⟩ (ih rest)

theorem of_forall₂_middle {α : Type} {R : α → α → Prop} {front back : List α} {v w : α}
    (each : List.Forall₂ R (front ++ v :: back) (front ++ w :: back)) : R v w := by
  induction front with
  | nil => exact (List.forall₂_cons.1 each).1
  | cons item rest ih => exact ih (List.forall₂_cons.1 each).2

/-- If two values are lists, their items are related one by one. -/
def Value.Along (R : Value → Value → Prop) (v w : Value) : Prop :=
  ∀ mark items other others, v = @list mark items → w = @list other others → List.Forall₂ R items others

theorem Value.along_of_meets {β : Type} {R : Value → β → Prop} {v w : Value}
    (meets : Meets (fun v results => ∃ items, v.Lists items ∧ List.Forall₂ R items results) v w) :
    v.Along (Meets R) w := by
  obtain ⟨results, ⟨items, listed, each⟩, others, otherListed, other⟩ := meets
  rintro mark _ otherMark _ rfl rfl
  obtain rfl := listed.unique (lists_list mark _)
  obtain rfl := otherListed.unique (lists_list otherMark _)
  exact forall₂_meets each other

theorem Value.Along.imp {R S : Value → Value → Prop} (weaker : ∀ v w, R v w → S v w) {v w : Value}
    (along : v.Along R w) : v.Along S w :=
  fun _ _ _ _ first second => (along _ _ _ _ first second).imp weaker

/-- What an event comes to, as one of a site or by itself. -/
def Event.Gives (v : Value) (event : Event) : Prop :=
  ∃ shared site position, Site.EventFrom shared site position v event

def Site.Agree (v w : Value) : Prop := ∃ shared, Meets (Site.From shared) v w

/-- Two values are read as one and the same as a part of this kind. -/
def Part.Agree : Part → Value → Value → Prop
  | .script => Meets Script.From
  | .entry => Meets Entry.From
  | .sites => Value.Along Site.Agree
  | .site => Site.Agree
  | .exits => Value.Along (Meets Exit.From)
  | .exit => Meets Exit.From
  | .events => Value.Along (Meets Event.Gives)
  | .event => Meets Event.Gives
  | .choices => Value.Along (Meets Choice.From)
  | .choice => Meets Choice.From
  | .action => Meets fun v action => Event.readAction? v = .ok action
  | .effects => Value.Along (Meets Effect.From)
  | .effect => Meets Effect.From

/-! ### What lists are read as -/

theorem Choice.from_of_readAll {items : List Value} {choices : List Choice}
    (read : Choice.readAll items = .ok choices) : List.Forall₂ Choice.From items choices :=
  (Choice.readAll_iff_of_mem fun item _ => item.formed).1 read

theorem Choice.from_of_readChoices? {mark : Option Nat} {items : List Value} {choices : Option (List Choice)}
    (read : Event.readChoices? (@Value.list mark items) = .ok choices) :
    ∃ each, choices = some each ∧ List.Forall₂ Choice.From items each := by
  obtain ⟨_, listed, read⟩ := bind_eq_ok read
  cases listed
  obtain ⟨each, all, made⟩ := bind_eq_ok read
  cases made
  exact ⟨each, rfl, from_of_readAll all⟩

/-- The effects of an action that is written as their list. -/
theorem Effect.from_of_readEffects {mark : Option Nat} {items : List Value} {action : Action}
    (read : Action.readEffects (@Value.list mark items) = .ok action) :
    ∃ each, action = .scripted each ∧ List.Forall₂ Effect.From items each := by
  obtain ⟨each, all, made⟩ := bind_eq_ok read
  cases made
  exact ⟨each, rfl, (Effect.readAll_iff_of_mem fun item _ => item.formed).1 all⟩

theorem Value.along_choices {v w : Value}
    (meets : Meets (fun v choices => Event.readChoices? v = .ok choices) v w) :
    v.Along (Meets Choice.From) w := by
  obtain ⟨choices, read, otherRead⟩ := meets
  rintro _ items _ others rfl rfl
  obtain ⟨each, rfl, first⟩ := Choice.from_of_readChoices? read
  obtain ⟨_, same, second⟩ := Choice.from_of_readChoices? otherRead
  cases same
  exact forall₂_meets first second

theorem Value.along_effects {v w : Value}
    (meets : Meets (fun v action => Action.readEffects v = .ok action) v w) :
    v.Along (Meets Effect.From) w := by
  obtain ⟨action, read, otherRead⟩ := meets
  rintro _ items _ others rfl rfl
  obtain ⟨each, rfl, first⟩ := Effect.from_of_readEffects read
  obtain ⟨_, same, second⟩ := Effect.from_of_readEffects otherRead
  cases same
  exact forall₂_meets first second

/-! ### From a part to the one within -/

section

variable {mark : Option Nat} {name : String} {v w : Value} {entries others : Entries}

variable {inner : Part} (replaced : Entries.Replaced name v w entries others)
include replaced

/-- What stands under the name meets when the fields do. -/
theorem Entries.Replaced.meets {β : Type} {R : Value → β → Prop} {b : β}
    (one : R ((@Value.mapping mark entries).field name) b)
    (other : R ((@Value.mapping mark others).field name) b) : Meets R v w := by
  have old : (@Value.mapping mark entries).field name = v := replaced.getD_old .null
  have new : (@Value.mapping mark others).field name = w := replaced.getD_new .null
  exact ⟨b, old ▸ one, new ▸ other⟩

theorem Script.agree_of_replaced (holds : Part.script.Holds name inner)
    (agree : Part.script.Agree (@Value.mapping mark entries) (@Value.mapping mark others)) :
    inner.Agree v w := by
  obtain ⟨script, one, other⟩ := agree
  cases holds with
  | entry => exact replaced.meets one.entry other.entry
  | sites =>
    exact (Value.along_of_meets (replaced.meets one.sites other.sites)).imp fun _ _ meets => ⟨_, meets⟩
  | shared =>
    refine (Value.along_of_meets (replaced.meets one.events other.events)).imp ?_
    rintro v w ⟨event, ⟨id, gives, data⟩, otherId, otherGives, otherData⟩
    exact ⟨event, ⟨[], "", 0, .own gives data⟩, [], "", 0, .own otherGives otherData⟩

theorem Site.agree_of_replaced (holds : Part.site.Holds name inner)
    (agree : Site.Agree (@Value.mapping mark entries) (@Value.mapping mark others)) : inner.Agree v w := by
  obtain ⟨shared, site, one, other⟩ := agree
  cases holds with
  | exits => exact Value.along_of_meets (replaced.meets one.exits other.exits)
  | events =>
    obtain ⟨_, ⟨items, listed, each⟩, others, otherListed, other⟩ :=
      replaced.meets (R := fun v events => ∃ items, v.Lists items ∧ List.Forall₂
        (fun item event => EventFrom shared site.id item.2 item.1 event) items.zipIdx events)
        one.events other.events
    rintro mark _ otherMark _ rfl rfl
    obtain rfl := listed.unique (Value.lists_list mark _)
    obtain rfl := otherListed.unique (Value.lists_list otherMark _)
    -- the items stand beside their positions; the events do not
    have placed : List.Forall₂ (fun item other => Meets Event.Gives item.1 other.1)
        items.zipIdx others.zipIdx := by
      refine (forall₂_meets each other).imp ?_
      rintro item other ⟨event, data, otherData⟩
      exact ⟨event, ⟨_, _, _, data⟩, _, _, _, otherData⟩
    have alone := List.forall₂_map_left_iff.2 (List.forall₂_map_right_iff.2 placed)
    rwa [List.zipIdx_map_fst, List.zipIdx_map_fst] at alone

theorem Exit.agree_of_replaced (holds : Part.exit.Holds name inner)
    (agree : Meets Exit.From (@Value.mapping mark entries) (@Value.mapping mark others)) :
    inner.Agree v w := by
  obtain ⟨exit, one, other⟩ := agree
  cases holds with
  | exitAction =>
    exact replaced.meets (R := fun v action => Event.readAction? v = .ok action) one.action other.action

omit replaced in
theorem Event.Gives.exists_from {event : Event} (gives : Gives (@Value.mapping mark entries) event) :
    ∃ id, Event.From id (@Value.mapping mark entries) event := by
  obtain ⟨shared, site, position, data⟩ := gives
  cases data with
  | own _ data => exact ⟨_, data⟩
  | placed _ data => exact ⟨_, data⟩

theorem Event.agree_of_replaced (holds : Part.event.Holds name inner)
    (agree : Meets Event.Gives (@Value.mapping mark entries) (@Value.mapping mark others)) :
    inner.Agree v w := by
  obtain ⟨event, gives, otherGives⟩ := agree
  obtain ⟨id, one⟩ := gives.exists_from
  obtain ⟨otherId, other⟩ := otherGives.exists_from
  cases holds with
  | choices => exact Value.along_choices (replaced.meets one.choices other.choices)
  | eventAction =>
    exact replaced.meets (R := fun v action => Event.readAction? v = .ok action) one.action other.action

omit replaced in
theorem Choice.From.parts {choice : Choice} (data : Choice.From (@Value.mapping mark entries) choice) :
    (∃ v, Entries.get? entries "action" = some v ∧ Event.readAction? v = .ok (some choice.action)) ∧
      ∃ text, (Entries.getD entries "text" "").toText = .ok text ∧ choice.text = .text text := by
  cases data with
  | @of _ _ v action writable given acts =>
    have read := (v.formed.action action).2 acts
    refine ⟨⟨v, given, ?_⟩, _, if_pos writable, rfl⟩
    cases v with
    | null => cases read
    | _ => exact congrArg (Except.map some) read

theorem Choice.agree_of_replaced (holds : Part.choice.Holds name inner)
    (agree : Meets Choice.From (@Value.mapping mark entries) (@Value.mapping mark others)) :
    inner.Agree v w := by
  obtain ⟨choice, one, other⟩ := agree
  cases holds with
  | choiceAction =>
    obtain ⟨action, given, acts⟩ := one.parts.1
    obtain ⟨otherAction, otherGiven, otherActs⟩ := other.parts.1
    cases replaced.old.symm.trans given
    cases replaced.new.symm.trans otherGiven
    exact ⟨some choice.action, acts, otherActs⟩

theorem Action.agree_of_replaced (holds : Part.action.Holds name inner)
    (agree : Part.action.Agree (@Value.mapping mark entries) (@Value.mapping mark others)) :
    inner.Agree v w := by
  obtain ⟨action, one, other⟩ := agree
  cases holds with
  | effects =>
    obtain ⟨action, read, rfl⟩ := map_eq_ok one
    obtain ⟨_, otherRead, same⟩ := map_eq_ok other
    cases same
    rw [Action.read, readEntries_eq, replaced.old] at read
    rw [Action.read, readEntries_eq, replaced.new] at otherRead
    exact Value.along_effects ⟨action, read, otherRead⟩

end

theorem Effect.agree_of_offer {mark : Option Nat} {front back : Entries} {v w : Value}
    (agree : Meets Effect.From (@Value.mapping mark (front ++ (.text "options", v) :: back))
      (@Value.mapping mark (front ++ (.text "options", w) :: back))) : v.Along (Meets Choice.From) w := by
  obtain ⟨effect, one, other⟩ := agree
  have read := ((Value.formed _).effect effect).2 one
  have otherRead := ((Value.formed _).effect effect).2 other
  by_cases single : front = [] ∧ back = []
  · obtain ⟨rfl, rfl⟩ := single
    obtain ⟨choices, offered, made⟩ := bind_eq_ok read
    obtain ⟨_, otherOffered, otherMade⟩ := bind_eq_ok otherRead
    cases made
    cases otherMade
    rintro _ items _ others rfl rfl
    exact forall₂_meets (Choice.from_of_readAll offered) (Choice.from_of_readAll otherOffered)
  · rw [read_among single] at read
    cases read

theorem Part.agree_of_field {part inner : Part} {name : String} (holds : part.Holds name inner)
    {front : Entries} (first : Entries.get? front name = none) {v w : Value} (written : v.WrittenAlike w)
    {mark : Option Nat} {back : Entries}
    (agree : part.Agree (@Value.mapping mark (front ++ (.text name, v) :: back))
      (@Value.mapping mark (front ++ (.text name, w) :: back))) : inner.Agree v w := by
  have replaced := Entries.Replaced.middle first written back
  cases part with
  | script => exact Script.agree_of_replaced replaced holds agree
  | site => exact Site.agree_of_replaced replaced holds agree
  | exit => exact Exit.agree_of_replaced replaced holds agree
  | event => exact Event.agree_of_replaced replaced holds agree
  | choice => exact Choice.agree_of_replaced replaced holds agree
  | action => exact Action.agree_of_replaced replaced holds agree
  | effect =>
    cases holds with
    | offer => exact Effect.agree_of_offer agree
  | _ => cases holds

theorem Part.agree_of_item {part inner : Part} (lists : part.Lists inner) {mark : Option Nat}
    {front back : List Value} {v w : Value}
    (agree : part.Agree (@Value.list mark (front ++ v :: back)) (@Value.list mark (front ++ w :: back))) :
    inner.Agree v w := by
  cases lists with
  | action =>
    obtain ⟨action, one, other⟩ := agree
    obtain ⟨action, read, rfl⟩ := map_eq_ok one
    obtain ⟨_, otherRead, same⟩ := map_eq_ok other
    cases same
    have along := @Value.along_effects (@Value.list mark (front ++ v :: back))
      (@Value.list mark (front ++ w :: back)) ⟨action, read, otherRead⟩
    exact of_forall₂_middle (along _ _ _ _ rfl rfl)
  | _ => exact of_forall₂_middle (agree _ _ _ _ rfl rfl)

/-- Data that are read as one and the same are so in the part that is changed. -/
theorem Altered.agree {change : Part → Value → Value → Prop}
    (written : ∀ part v w, change part v w → v.WrittenAlike w) {part : Part} {v w : Value}
    (altered : Altered change part v w) (agree : part.Agree v w) :
    ∃ inner before after, change inner before after ∧ inner.Agree before after := by
  induction altered with
  | here changed => exact ⟨_, _, _, changed, agree⟩
  | field holds first altered ih =>
    exact ih (Part.agree_of_field holds first (altered.writtenAlike written) agree)
  | item lists _ ih => exact ih (Part.agree_of_item lists agree)

end Gamebook
