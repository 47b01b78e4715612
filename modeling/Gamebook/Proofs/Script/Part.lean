import Gamebook.Proofs.Script.Description
import Gamebook.Proofs.Script.Form

/-! The parts of a script's data.

A script is read part by part. So data in which one part is changed, at whatever depth, is read alike if
that part is: `Altered.same`. Two faults count as alike here when they are reported alike but for the data
that they quote.
-/

set_option autoImplicit false

namespace Gamebook

/-! ### Results that are alike -/

/-- What is wrong, without what is quoted of the part in which it is. -/
def Malformed.bare : Malformed → Malformed
  | .event _ => .event .null
  | .site _ => .site .null
  | .effect _ => .effect .null
  | .option _ => .option .null
  | cause => cause

/-- A fault as it is reported, without what is quoted of the part in which it is. -/
def Fault.bare (f : Fault) : Fault :=
  match f.reported with
  | .malformed cause => .malformed cause.bare
  | other => other

/-- Two results are alike: they are the same, or faults that differ in what they quote at most. -/
def SameOutcome {α : Type} (x y : Except Fault α) : Prop :=
  x.mapError Fault.bare = y.mapError Fault.bare

namespace SameOutcome

variable {α β : Type} {x y : Except Fault α}

theorem refl (x : Except Fault α) : SameOutcome x x := rfl

theorem bind {next other : α → Except Fault β} (first : SameOutcome x y)
    (rest : ∀ a, x = .ok a → SameOutcome (next a) (other a)) : SameOutcome (x >>= next) (y >>= other) := by
  cases x with
  | error fault =>
    cases y with
    | error other => exact congrArg Except.error (Except.error.inj first)
    | ok b => cases first
  | ok a =>
    cases y with
    | error other => cases first
    | ok b =>
      obtain rfl : a = b := Except.ok.inj first
      exact rest a rfl

theorem map (f : α → β) (same : SameOutcome x y) : SameOutcome (x.map f) (y.map f) := by
  cases x with
  | error fault =>
    cases y with
    | error other => exact congrArg Except.error (Except.error.inj same)
    | ok b => cases same
  | ok a =>
    cases y with
    | error other => cases same
    | ok b => exact congrArg (fun a => Except.ok (f a)) (Except.ok.inj same)

theorem mapM {γ : Type} {f : γ → Except Fault α} {items others : List γ}
    (each : List.Forall₂ (fun item other => SameOutcome (f item) (f other)) items others) :
    SameOutcome (items.mapM f) (others.mapM f) := by
  induction each with
  | nil => exact refl _
  | cons first _ ih =>
    rw [List.mapM_cons, List.mapM_cons]
    exact first.bind fun _ _ => ih.bind fun _ _ => refl _

/-- A part that is refused is refused alike whatever is quoted of it, if it can be written or not. -/
theorem malformed {c : Value → Malformed} {v w : Value} (writable : v.isWritable = w.isWritable)
    (quotes : ∀ v, (c v).quoted = [v]) (bare : ∀ v, (c v).bare = (c .null).bare) :
    SameOutcome (.error (.malformed (c v)) : Except Fault α) (.error (.malformed (c w))) := by
  have told : Fault.bare (.malformed (c v)) = Fault.bare (.malformed (c w)) := by
    simp only [Fault.bare, Fault.reported, Fault.quoted, quotes, List.all_cons, List.all_nil,
      Bool.and_true, writable]
    cases w.isWritable with
    | false => rfl
    | true => exact congrArg Fault.malformed ((bare v).trans (bare w).symm)
  exact congrArg Except.error told

end SameOutcome

/-! ### Parts, and changes within them -/

/-- The kinds of parts that a script's data is made of. -/
inductive Part where
  | script
  | entry
  | sites
  | site
  | exits
  | exit
  | events
  | event
  | choices
  | choice
  | action
  | effects
  | effect

namespace Part

/-- A part holds another one under a name. -/
inductive Holds : Part → String → Part → Prop where
  | entry : Holds .script "entry" .entry
  | sites : Holds .script "sites" .sites
  | shared : Holds .script "events" .events
  | exits : Holds .site "ports" .exits
  | events : Holds .site "events" .events
  | exitAction : Holds .exit "action" .action
  | choices : Holds .event "options" .choices
  | eventAction : Holds .event "action" .action
  | choiceAction : Holds .choice "action" .action
  | effects : Holds .action "effects" .effects
  | offer : Holds .effect "options" .choices

/-- A part is a list of others. An action may be the list of its effects. -/
inductive Lists : Part → Part → Prop where
  | sites : Lists .sites .site
  | exits : Lists .exits .exit
  | events : Lists .events .event
  | choices : Lists .choices .choice
  | effects : Lists .effects .effect
  | action : Lists .action .effect

end Part

/-- Two values are the same but for one part, at whatever depth, which is changed. -/
inductive Altered (change : Part → Value → Value → Prop) : Part → Value → Value → Prop where
  | here {part : Part} {v w : Value} (changed : change part v w) : Altered change part v w
  | field {part inner : Part} {mark : Option Nat} {front back : Entries} {name : String} {v w : Value}
      (holds : part.Holds name inner) (first : Entries.get? front name = none)
      (altered : Altered change inner v w) :
      Altered change part (@Value.mapping mark (front ++ (.text name, v) :: back))
        (@Value.mapping mark (front ++ (.text name, w) :: back))
  | item {part inner : Part} {mark : Option Nat} {front back : List Value} {v w : Value}
      (lists : part.Lists inner) (altered : Altered change inner v w) :
      Altered change part (@Value.list mark (front ++ v :: back)) (@Value.list mark (front ++ w :: back))

/-- Two values can be written in the same places. -/
def Value.WrittenAlike (v w : Value) : Prop :=
  ∀ around, v.isWritableWithin around = w.isWritableWithin around

namespace Value

theorem itemsWritable_append (around : List Nat) (front back : List Value) :
    itemsWritable around (front ++ back) = (itemsWritable around front && itemsWritable around back) := by
  induction front with
  | nil => rfl
  | cons v rest ih => simp only [List.cons_append, itemsWritable, ih, Bool.and_assoc]

theorem entriesWritable_append (around : List Nat) (front back : Entries) :
    entriesWritable around (front ++ back) =
      (entriesWritable around front && entriesWritable around back) := by
  induction front with
  | nil => rfl
  | cons entry rest ih =>
    obtain ⟨k, v⟩ := entry
    simp only [List.cons_append, entriesWritable, ih, Bool.and_assoc]

theorem WrittenAlike.mapping {mark : Option Nat} {entries others : Entries}
    (same : ∀ around, entriesWritable around entries = entriesWritable around others) :
    (@mapping mark entries).WrittenAlike (@mapping mark others) := by
  intro around
  simp only [isWritableWithin, same]

end Value

theorem Altered.writtenAlike {change : Part → Value → Value → Prop}
    (changes : ∀ part v w, change part v w → v.WrittenAlike w) {part : Part} {v w : Value}
    (altered : Altered change part v w) : v.WrittenAlike w := by
  induction altered with
  | here changed => exact changes _ _ _ changed
  | field holds first altered ih =>
    refine .mapping fun around => ?_
    simp only [Value.entriesWritable_append, Value.entriesWritable, ih around]
  | @item _ _ mark _ _ _ _ lists altered ih =>
    intro around
    simp only [Value.isWritableWithin, Value.itemsWritable_append, Value.itemsWritable,
      ih (mark.toList ++ around)]

namespace Entries

theorem get?_middle {front : Entries} {name : String} (first : get? front name = none) (v : Value)
    (back : Entries) : get? (front ++ (.text name, v) :: back) name = some v := by
  simp [get?_append, first, get?, Value.isText]

theorem get?_middle_of_ne {name other : String} (apart : other ≠ name) (front back : Entries) (v : Value) :
    get? (front ++ (.text name, v) :: back) other = get? (front ++ back) other := by
  have away : (Value.text name).isText other = false := by simpa [Value.isText] using apart.symm
  simp [get?_append, get?, away]

end Entries

/-! ### What each part is read by -/

/-- What the items of a list are read as; nothing lists nothing. -/
def readItems {α : Type} (read : Value → Except Fault α) (v : Value) : Except Fault (List α) := do
  (← (v.orElse (.ofList [])).items).mapM read

def Site.readListed (shared : List Event) (site : String) (v : Value) : Except Fault (List Event) := do
  readEvents shared site 0 (← (v.orElse (.ofList [])).items)

/-- Two values are lists of items that are related one by one. -/
def Value.Each (R : Value → Value → Prop) (v w : Value) : Prop :=
  ∃ mark items others, v = @list mark items ∧ w = @list mark others ∧ List.Forall₂ R items others

/-- An event is read alike by itself and as one of a site. -/
structure Event.Same (v w : Value) : Prop where
  alone : SameOutcome (Event.read v) (Event.read w)
  placed : ∀ shared site position,
    SameOutcome (Site.readEvent shared site position v) (Site.readEvent shared site position w)

def Site.Same (v w : Value) : Prop := ∀ shared, SameOutcome (Site.read shared v) (Site.read shared w)

def Exit.Same (v w : Value) : Prop := SameOutcome (Exit.read v) (Exit.read w)

def Choice.Same (v w : Value) : Prop := SameOutcome (Choice.read v) (Choice.read w)

def Effect.Same (v w : Value) : Prop := SameOutcome (Effect.read v) (Effect.read w)

/-- An action is read alike where it must be given and where it may be. -/
structure Action.Same (v w : Value) : Prop where
  given : SameOutcome (Action.read v) (Action.read w)
  optional : SameOutcome (Event.readAction? v) (Event.readAction? w)

/-- Two values are read alike as a part of this kind. -/
def Part.Same : Part → Value → Value → Prop
  | .script, v, w => SameOutcome (Script.read v) (Script.read w)
  | .entry, v, w => SameOutcome (Script.readEntry v) (Script.readEntry w)
  | .sites, v, w => v.Each Site.Same w
  | .site, v, w => Site.Same v w
  | .exits, v, w => v.Each Exit.Same w
  | .exit, v, w => Exit.Same v w
  | .events, v, w => v.Each Event.Same w
  | .event, v, w => Event.Same v w
  | .choices, v, w => v.Each Choice.Same w
  | .choice, v, w => Choice.Same v w
  | .action, v, w => Action.Same v w
  | .effects, v, w => v.Each Effect.Same w
  | .effect, v, w => Effect.Same v w

section

variable {α : Type} {v w : Value}

theorem readItems_list (read : Value → Except Fault α) (mark : Option Nat) (items : List Value) :
    readItems read (@Value.list mark items) = items.mapM read := by
  rw [readItems, Value.lists_list mark items]
  rfl

theorem readItems_same {read : Value → Except Fault α}
    (each : v.Each (fun item other => SameOutcome (read item) (read other)) w) :
    SameOutcome (readItems read v) (readItems read w) := by
  obtain ⟨mark, items, others, rfl, rfl, each⟩ := each
  rw [readItems_list, readItems_list]
  exact SameOutcome.mapM each

theorem Site.readEvents_same {items others : List Value} (each : List.Forall₂ Event.Same items others)
    (shared : List Event) (site : String) (position : Nat) :
    SameOutcome (readEvents shared site position items) (readEvents shared site position others) := by
  induction each generalizing position with
  | nil => exact .refl _
  | cons first _ ih =>
    rw [readEvents, readEvents]
    exact (first.placed shared site position).bind fun _ _ => (ih _).bind fun _ _ => .refl _

theorem Site.readListed_list (shared : List Event) (site : String) (mark : Option Nat)
    (items : List Value) :
    readListed shared site (@Value.list mark items) = readEvents shared site 0 items := by
  rw [readListed, Value.lists_list mark items]
  rfl

theorem Site.readListed_same (each : v.Each Event.Same w) (shared : List Event) (site : String) :
    SameOutcome (readListed shared site v) (readListed shared site w) := by
  obtain ⟨mark, items, others, rfl, rfl, each⟩ := each
  rw [readListed_list, readListed_list]
  exact Site.readEvents_same each shared site 0

theorem Choice.readAll_same {items others : List Value} (each : List.Forall₂ Choice.Same items others) :
    SameOutcome (Choice.readAll items) (Choice.readAll others) := by
  rw [Choice.readAll_eq, Choice.readAll_eq]
  exact SameOutcome.mapM each

theorem Event.readChoices?_same (each : v.Each Choice.Same w) :
    SameOutcome (Event.readChoices? v) (Event.readChoices? w) := by
  obtain ⟨mark, items, others, rfl, rfl, each⟩ := each
  exact (Choice.readAll_same each).bind fun _ _ => .refl _

theorem Choice.readOffer_same (each : v.Each Choice.Same w) :
    SameOutcome (Choice.readOffer v) (Choice.readOffer w) := by
  obtain ⟨mark, items, others, rfl, rfl, each⟩ := each
  exact Choice.readAll_same each

theorem Action.readEffects_same (each : v.Each Effect.Same w) :
    SameOutcome (Action.readEffects v) (Action.readEffects w) := by
  obtain ⟨mark, items, others, rfl, rfl, each⟩ := each
  rw [readEffects, readEffects, Effect.readAll_eq, Effect.readAll_eq]
  exact (SameOutcome.mapM each).bind fun _ _ => .refl _

end

/-! ### One part after the other -/

section

variable {mark : Option Nat} {entries others : Entries}

theorem Script.read_mapping (mark : Option Nat) (entries : Entries) :
    Script.read (@Value.mapping mark entries) = do
      let events ← readItems Event.read (Entries.getD entries "events" .null)
      checkDistinct "event" [] (events.map (·.id))
      let sites ← readItems (Site.read events) (Entries.getD entries "sites" .null)
      let entry ← readEntry (Entries.getD entries "entry" .null)
      checkDistinct "site" [] (sites.map (·.id))
      return { sites, events, entry } := by
  simp only [Script.read, readItems, bind_assoc]
  rfl

theorem Script.read_same
    (events : SameOutcome (readItems Event.read (Entries.getD entries "events" .null))
      (readItems Event.read (Entries.getD others "events" .null)))
    (sites : ∀ shared, SameOutcome (readItems (Site.read shared) (Entries.getD entries "sites" .null))
      (readItems (Site.read shared) (Entries.getD others "sites" .null)))
    (entry : SameOutcome (readEntry (Entries.getD entries "entry" .null))
      (readEntry (Entries.getD others "entry" .null))) :
    SameOutcome (Script.read (@Value.mapping mark entries)) (Script.read (@Value.mapping mark others)) := by
  rw [Script.read_mapping, Script.read_mapping]
  refine events.bind fun shared _ => (SameOutcome.refl _).bind fun _ _ => ?_
  exact (sites shared).bind fun _ _ => entry.bind fun _ _ => .refl _

theorem Script.readEntry_same
    (site : Entries.getD others "site" .null = Entries.getD entries "site" .null)
    (story : (Entries.getD others "story" "").toText = (Entries.getD entries "story" "").toText) :
    SameOutcome (readEntry (@Value.mapping mark entries)) (readEntry (@Value.mapping mark others)) := by
  rw [readEntry_mapping, readEntry_mapping, site, story]
  exact .refl _

theorem Site.read_mapping (shared : List Event) (mark : Option Nat) (entries : Entries) :
    Site.read shared (@Value.mapping mark entries) =
      if (Entries.getD entries "id" .null).isTruthy then do
        let id ← (Entries.getD entries "id" .null).toText
        let events ← readListed shared id (Entries.getD entries "events" .null)
        let name ← (Entries.getD entries "name" (.text id)).toText
        let exits ← readItems Exit.read (Entries.getD entries "ports" .null)
        return { id, name, exits, events }
      else .error (.malformed (.site (@Value.mapping mark entries))) := by
  simp only [Site.read, readListed, readItems, bind_assoc]
  cases (Entries.getD entries "id" .null).isTruthy <;> rfl

theorem Event.read_mapping (mark : Option Nat) (entries : Entries) :
    Event.read (@Value.mapping mark entries) =
      if (Entries.getD entries "id" .null).isTruthy then do
        let id ← (Entries.getD entries "id" .null).toText
        let weight ← readWeight (Entries.getD entries "id" .null) (Entries.getD entries "weight" .null)
        let choices ← readChoices? (Entries.getD entries "options" .null)
        let action ← readAction? (Entries.getD entries "action" .null)
        return { id, weight, text := Entries.getD entries "text" .null, choices, action }
      else .error (.malformed (.event (@Value.mapping mark entries))) := by
  simp only [Event.read]
  cases (Entries.getD entries "id" .null).isTruthy <;> rfl

theorem Exit.read_mapping (mark : Option Nat) (entries : Entries) :
    Exit.read (@Value.mapping mark entries) = (do
      let action ← Event.readAction? (Entries.getD entries "action" .null)
      let distance ← (Entries.getD entries "distance" (.int 1)).toInt
      check {
        target := Entries.getD entries "target" .null
        name := Entries.getD entries "name" .null
        action
        distance }) := rfl

theorem Choice.read_mapping (mark : Option Nat) (entries : Entries) :
    Choice.read (@Value.mapping mark entries) =
      match Entries.get? entries "action" with
      | some action => do
        let text ← (Entries.getD entries "text" "").toText
        return ⟨text, ← Action.read action⟩
      | none => .error (.malformed (.option (@Value.mapping mark entries))) := by
  rw [Choice.read, Choice.readAction?_eq]
  cases Entries.get? entries "action" <;> rfl

variable (written : ∀ around, Value.entriesWritable around entries = Value.entriesWritable around others)

/-- The fields of an event that are read, in two mappings that are read alike. -/
structure Event.Fields (entries others : Entries) : Prop where
  id : Entries.get? others "id" = Entries.get? entries "id"
  weight : Entries.getD others "weight" .null = Entries.getD entries "weight" .null
  text : Entries.getD others "text" .null = Entries.getD entries "text" .null
  choices : SameOutcome (Event.readChoices? (Entries.getD entries "options" .null))
    (Event.readChoices? (Entries.getD others "options" .null))
  action : SameOutcome (Event.readAction? (Entries.getD entries "action" .null))
    (Event.readAction? (Entries.getD others "action" .null))

include written

theorem Event.read_same (fields : Event.Fields entries others) :
    SameOutcome (Event.read (@Value.mapping mark entries)) (Event.read (@Value.mapping mark others)) := by
  have id : Entries.getD others "id" .null = Entries.getD entries "id" .null := by
    rw [Entries.getD, fields.id, Entries.getD]
  rw [Event.read_mapping, Event.read_mapping, id, fields.weight, fields.text]
  split
  · refine (SameOutcome.refl _).bind fun _ _ => (SameOutcome.refl _).bind fun _ _ => ?_
    exact fields.choices.bind fun _ _ => fields.action.bind fun _ _ => .refl _
  · exact .malformed (Value.WrittenAlike.mapping written []) (fun _ => rfl) fun _ => rfl

theorem Event.same_of_fields (fields : Event.Fields entries others) :
    Event.Same (@Value.mapping mark entries) (@Value.mapping mark others) := by
  refine ⟨read_same written fields, fun shared site position => ?_⟩
  have contained : Entries.contains others "id" = Entries.contains entries "id" := by
    rw [Entries.contains, fields.id, Entries.contains]
  simp only [Site.readEvent, contained]
  split
  · exact read_same written fields
  · -- each is read with the id of its place put last
    have kept (all : Entries) (name : String) (apart : name ≠ "id") (id : Value) :
        Entries.getD (all ++ [(.text "id", id)]) name .null = Entries.getD all name .null := by
      rw [Entries.getD, Entries.get?_middle_of_ne apart, List.append_nil, Entries.getD]
    refine read_same (fun around => ?_) ⟨?_, ?_, ?_, ?_, ?_⟩
    · rw [Value.entriesWritable_append, Value.entriesWritable_append, written]
    · rw [Entries.get?_append, Entries.get?_append, fields.id]
    · rw [kept others _ (by decide), kept entries _ (by decide), fields.weight]
    · rw [kept others _ (by decide), kept entries _ (by decide), fields.text]
    · rw [kept others _ (by decide), kept entries _ (by decide)]
      exact fields.choices
    · rw [kept others _ (by decide), kept entries _ (by decide)]
      exact fields.action

theorem Site.same_of_fields
    (id : Entries.getD others "id" .null = Entries.getD entries "id" .null)
    (events : ∀ shared site, SameOutcome (readListed shared site (Entries.getD entries "events" .null))
      (readListed shared site (Entries.getD others "events" .null)))
    (name : ∀ site, (Entries.getD entries "id" .null).toText = .ok site →
      (Entries.getD others "name" (.text site)).toText = (Entries.getD entries "name" (.text site)).toText)
    (exits : SameOutcome (readItems Exit.read (Entries.getD entries "ports" .null))
      (readItems Exit.read (Entries.getD others "ports" .null))) :
    Site.Same (@Value.mapping mark entries) (@Value.mapping mark others) := by
  intro shared
  rw [Site.read_mapping, Site.read_mapping, id]
  split
  · refine (SameOutcome.refl _).bind fun site gives => (events shared site).bind fun _ _ => ?_
    rw [name site gives]
    exact (SameOutcome.refl _).bind fun _ _ => exits.bind fun _ _ => .refl _
  · exact .malformed (Value.WrittenAlike.mapping written []) (fun _ => rfl) fun _ => rfl

theorem Choice.same_of_fields
    (action : (Entries.get? entries "action" = none ∧ Entries.get? others "action" = none) ∨
      ∃ v w, Entries.get? entries "action" = some v ∧ Entries.get? others "action" = some w ∧
        SameOutcome (Action.read v) (Action.read w))
    (text : (Entries.getD others "text" "").toText = (Entries.getD entries "text" "").toText) :
    Choice.Same (@Value.mapping mark entries) (@Value.mapping mark others) := by
  rw [Choice.Same, Choice.read_mapping, Choice.read_mapping, text]
  rcases action with ⟨none, otherNone⟩ | ⟨v, w, given, otherGiven, same⟩
  · rw [none, otherNone]
    exact .malformed (Value.WrittenAlike.mapping written []) (fun _ => rfl) fun _ => rfl
  · rw [given, otherGiven]
    exact (SameOutcome.refl _).bind fun _ _ => same.bind fun _ _ => .refl _

omit written in
theorem Exit.same_of_fields
    (target : Entries.getD others "target" .null = Entries.getD entries "target" .null)
    (name : Entries.getD others "name" .null = Entries.getD entries "name" .null)
    (action : SameOutcome (Event.readAction? (Entries.getD entries "action" .null))
      (Event.readAction? (Entries.getD others "action" .null)))
    (distance : (Entries.getD others "distance" (.int 1)).toInt =
      (Entries.getD entries "distance" (.int 1)).toInt) :
    Exit.Same (@Value.mapping mark entries) (@Value.mapping mark others) := by
  rw [Exit.Same, Exit.read_mapping, Exit.read_mapping, target, name, distance]
  exact action.bind fun _ _ => .refl _

end

/-! ### Changes within a part -/

theorem Value.Each.middle {R : Value → Value → Prop} (refl : ∀ v, R v v) {mark : Option Nat}
    {front back : List Value} {v w : Value} (same : R v w) :
    (@list mark (front ++ v :: back)).Each R (@list mark (front ++ w :: back)) :=
  ⟨mark, _, _, rfl, rfl, List.rel_append (List.forall₂_same.2 fun v _ => refl v)
    (.cons same (List.forall₂_same.2 fun v _ => refl v))⟩

theorem Value.Each.imp {R S : Value → Value → Prop} (weaker : ∀ v w, R v w → S v w) {v w : Value}
    (each : v.Each R w) : v.Each S w := by
  obtain ⟨mark, items, others, rfl, rfl, each⟩ := each
  exact ⟨mark, items, others, rfl, rfl, each.imp weaker⟩

theorem Event.Same.refl (v : Value) : Event.Same v v := ⟨.refl _, fun _ _ _ => .refl _⟩

theorem Action.same_of_effects {v w : Value} (each : v.Each Effect.Same w) : Action.Same v w := by
  have given : SameOutcome (Action.read v) (Action.read w) := by
    have effects := Action.readEffects_same each
    obtain ⟨mark, items, others, rfl, rfl, -⟩ := each
    exact effects
  refine ⟨given, ?_⟩
  obtain ⟨mark, items, others, rfl, rfl, -⟩ := each
  exact given.map some

theorem Part.same_item {part inner : Part} (lists : part.Lists inner) {mark : Option Nat}
    {front back : List Value} {v w : Value} (same : inner.Same v w) :
    part.Same (@Value.list mark (front ++ v :: back)) (@Value.list mark (front ++ w :: back)) := by
  cases lists with
  | sites => exact .middle (fun _ _ => .refl _) same
  | exits => exact .middle (fun _ => .refl _) same
  | events => exact .middle Event.Same.refl same
  | choices => exact .middle (fun _ => .refl _) same
  | effects => exact .middle (fun _ => .refl _) same
  | action => exact Action.same_of_effects (.middle (fun _ => .refl _) same)

/-- Two mappings hold the same beside what stands under a name, and can be written in the same places. -/
structure Entries.Beside (name : String) (entries others : Entries) : Prop where
  beside : ∀ other, other ≠ name → Entries.get? others other = Entries.get? entries other
  written : ∀ around, Value.entriesWritable around entries = Value.entriesWritable around others

/-- One of them has one value under the name, and one another. -/
structure Entries.Replaced (name : String) (v w : Value) (entries others : Entries) : Prop
    extends Beside name entries others where
  old : Entries.get? entries name = some v
  new : Entries.get? others name = some w

theorem Entries.Beside.getD_beside {name : String} {entries others : Entries}
    (both : Beside name entries others) {other : String} (apart : other ≠ name) (default : Value) :
    Entries.getD others other default = Entries.getD entries other default := by
  rw [Entries.getD, both.beside other apart, Entries.getD]

/-- What is read of other names is read alike. -/
theorem Entries.Beside.read_same {name : String} {entries others : Entries}
    (both : Beside name entries others) {other : String} (apart : other ≠ name) {α : Type}
    (read : Value → Except Fault α) :
    SameOutcome (read (Entries.getD entries other .null)) (read (Entries.getD others other .null)) := by
  rw [both.getD_beside apart]
  exact .refl _

namespace Entries.Replaced

variable {name : String} {v w : Value} {entries others : Entries}

theorem middle {front : Entries} (first : Entries.get? front name = none) (written : v.WrittenAlike w)
    (back : Entries) :
    Replaced name v w (front ++ (.text name, v) :: back) (front ++ (.text name, w) :: back) where
  beside other apart := by rw [get?_middle_of_ne apart, get?_middle_of_ne apart]
  written around := by
    simp only [Value.entriesWritable_append, Value.entriesWritable, written around]
  old := get?_middle first v back
  new := get?_middle first w back

variable (replaced : Replaced name v w entries others)
include replaced

theorem getD_old (default : Value) : Entries.getD entries name default = v := by
  rw [Entries.getD, replaced.old, Option.getD_some]

theorem getD_new (default : Value) : Entries.getD others name default = w := by
  rw [Entries.getD, replaced.new, Option.getD_some]

end Entries.Replaced

section

variable {mark : Option Nat} {name : String} {v w : Value} {entries others : Entries}

variable {inner : Part} (replaced : Entries.Replaced name v w entries others) (same : inner.Same v w)
include replaced same

theorem Script.same_of_replaced (holds : Part.script.Holds name inner) :
    SameOutcome (Script.read (@Value.mapping mark entries)) (Script.read (@Value.mapping mark others)) := by
  cases holds with
  | entry =>
    refine read_same (replaced.read_same (by decide) _) (fun _ => replaced.read_same (by decide) _) ?_
    rw [replaced.getD_old, replaced.getD_new]
    exact same
  | sites =>
    refine read_same (replaced.read_same (by decide) _) (fun shared => ?_) (replaced.read_same (by decide) _)
    rw [replaced.getD_old, replaced.getD_new]
    exact readItems_same (same.imp fun _ _ alike => alike shared)
  | shared =>
    refine read_same ?_ (fun _ => replaced.read_same (by decide) _) (replaced.read_same (by decide) _)
    rw [replaced.getD_old, replaced.getD_new]
    exact readItems_same (same.imp fun _ _ alike => alike.alone)

theorem Site.same_of_replaced (holds : Part.site.Holds name inner) :
    Site.Same (@Value.mapping mark entries) (@Value.mapping mark others) := by
  cases holds with
  | exits =>
    refine same_of_fields replaced.written (replaced.getD_beside (by decide) _)
      (fun _ _ => replaced.read_same (by decide) _)
      (fun site _ => by rw [replaced.getD_beside (by decide)]) ?_
    rw [replaced.getD_old, replaced.getD_new]
    exact readItems_same same
  | events =>
    refine same_of_fields replaced.written (replaced.getD_beside (by decide) _) (fun shared site => ?_)
      (fun site _ => by rw [replaced.getD_beside (by decide)]) (replaced.read_same (by decide) _)
    rw [replaced.getD_old, replaced.getD_new]
    exact readListed_same same shared site

theorem Exit.same_of_replaced (holds : Part.exit.Holds name inner) :
    Exit.Same (@Value.mapping mark entries) (@Value.mapping mark others) := by
  cases holds with
  | exitAction =>
    refine same_of_fields (replaced.getD_beside (by decide) _) (replaced.getD_beside (by decide) _) ?_
      (by rw [replaced.getD_beside (by decide)])
    rw [replaced.getD_old, replaced.getD_new]
    exact same.optional

theorem Event.same_of_replaced (holds : Part.event.Holds name inner) :
    Event.Same (@Value.mapping mark entries) (@Value.mapping mark others) := by
  cases holds with
  | choices =>
    refine same_of_fields replaced.written ⟨replaced.beside _ (by decide),
      replaced.getD_beside (by decide) _, replaced.getD_beside (by decide) _, ?_,
      replaced.read_same (by decide) _⟩
    rw [replaced.getD_old, replaced.getD_new]
    exact readChoices?_same same
  | eventAction =>
    refine same_of_fields replaced.written ⟨replaced.beside _ (by decide),
      replaced.getD_beside (by decide) _, replaced.getD_beside (by decide) _,
      replaced.read_same (by decide) _, ?_⟩
    rw [replaced.getD_old, replaced.getD_new]
    exact same.optional

theorem Choice.same_of_replaced (holds : Part.choice.Holds name inner) :
    Choice.Same (@Value.mapping mark entries) (@Value.mapping mark others) := by
  cases holds with
  | choiceAction =>
    refine same_of_fields replaced.written (.inr ⟨v, w, replaced.old, replaced.new, same.given⟩) ?_
    rw [replaced.getD_beside (by decide)]

theorem Action.same_of_replaced (holds : Part.action.Holds name inner) :
    Action.Same (@Value.mapping mark entries) (@Value.mapping mark others) := by
  cases holds with
  | effects =>
    have given : SameOutcome (Action.read (@Value.mapping mark entries))
        (Action.read (@Value.mapping mark others)) := by
      rw [Action.read, Action.read, readEntries_eq, readEntries_eq, replaced.old, replaced.new]
      exact readEffects_same same
    exact ⟨given, given.map some⟩

end

/-- What has more than one key is no effect, and is quoted as a whole. -/
theorem Effect.read_among {mark : Option Nat} {front back : Entries} {name : Value}
    (others : ¬(front = [] ∧ back = [])) (v : Value) :
    Effect.read (@Value.mapping mark (front ++ (name, v) :: back)) =
      .error (.malformed (.effect (@Value.mapping mark (front ++ (name, v) :: back)))) := by
  refine read_of_not_single fun _ kind argument same => others ?_
  have length := congrArg List.length (Value.mapping.inj same).2
  simp only [List.length_append, List.length_cons, List.length_nil] at length
  exact ⟨List.length_eq_zero_iff.1 (by omega), List.length_eq_zero_iff.1 (by omega)⟩

theorem Effect.same_of_offer {mark : Option Nat} {front back : Entries} {v w : Value}
    (written : v.WrittenAlike w) (same : v.Each Choice.Same w) :
    Effect.Same (@Value.mapping mark (front ++ (.text "options", v) :: back))
      (@Value.mapping mark (front ++ (.text "options", w) :: back)) := by
  by_cases single : front = [] ∧ back = []
  · obtain ⟨rfl, rfl⟩ := single
    exact (Choice.readOffer_same same).bind fun _ _ => .refl _
  · rw [Effect.Same, read_among single, read_among single]
    refine .malformed (Value.WrittenAlike.mapping (fun around => ?_) []) (fun _ => rfl) fun _ => rfl
    simp only [Value.entriesWritable_append, Value.entriesWritable, written around]

theorem Part.same_field {part inner : Part} {name : String} (holds : part.Holds name inner)
    {front : Entries} (first : Entries.get? front name = none) {v w : Value} (written : v.WrittenAlike w)
    (same : inner.Same v w) {mark : Option Nat} {back : Entries} :
    part.Same (@Value.mapping mark (front ++ (.text name, v) :: back))
      (@Value.mapping mark (front ++ (.text name, w) :: back)) := by
  have replaced := Entries.Replaced.middle first written back
  cases part with
  | script => exact Script.same_of_replaced replaced same holds
  | site => exact Site.same_of_replaced replaced same holds
  | exit => exact Exit.same_of_replaced replaced same holds
  | event => exact Event.same_of_replaced replaced same holds
  | choice => exact Choice.same_of_replaced replaced same holds
  | action => exact Action.same_of_replaced replaced same holds
  | effect =>
    cases holds with
    | offer => exact Effect.same_of_offer written same
  | _ => cases holds

/-- If what is changed in a part is read alike there, the whole is read alike. -/
theorem Altered.same {change : Part → Value → Value → Prop}
    (written : ∀ part v w, change part v w → v.WrittenAlike w)
    (same : ∀ part v w, change part v w → part.Same v w) {part : Part} {v w : Value}
    (altered : Altered change part v w) : part.Same v w := by
  induction altered with
  | here changed => exact same _ _ _ changed
  | field holds first altered ih => exact Part.same_field holds first (altered.writtenAlike written) ih
  | item lists _ ih => exact Part.same_item lists ih

end Gamebook
