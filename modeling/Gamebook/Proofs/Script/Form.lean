import Gamebook.Proofs.Script.Flaw
import Gamebook.Proofs.Script.Reading

/-! The forms in which actions are written.

The relations `From` are the grammar of actions, effects and options, each form with what it stands for.
`Action.read_eq_ok_iff` has it that reading succeeds just on them.
-/

set_option autoImplicit false

namespace Gamebook

/-- What stands directly inside a value: the items of a list, the values of a mapping. -/
def Value.members : Value → List Value
  | .list items => items
  | .mapping entries => entries.map Prod.snd
  | _ => []

theorem Value.sizeOf_lt_of_mem_members {v member : Value} (within : member ∈ v.members) :
    sizeOf member < sizeOf v := by
  cases v with
  | list items =>
    have smaller : sizeOf member < sizeOf items := List.sizeOf_lt_of_mem within
    simp only [list.sizeOf_spec]
    omega
  | mapping entries =>
    obtain ⟨⟨k, w⟩, listed, rfl⟩ := List.mem_map.1 within
    have smaller := List.sizeOf_lt_of_mem listed
    simp only [Prod.mk.sizeOf_spec] at smaller
    simp only [mapping.sizeOf_spec]
    omega
  | _ => cases within

/-- What holds of a value once it holds of what stands inside it holds of all data. -/
@[elab_as_elim]
theorem Value.members_induction {P : Value → Prop}
    (whole : ∀ v : Value, (∀ member ∈ v.members, P member) → P v) (v : Value) : P v :=
  whole v fun member within =>
    have := sizeOf_lt_of_mem_members within
    members_induction whole member
termination_by sizeOf v

theorem Value.mem_members_of_get? (mark : Option Nat) {entries : Entries} {name : String} {v : Value}
    (given : Entries.get? entries name = some v) : v ∈ (@Value.mapping mark entries).members := by
  induction entries with
  | nil => cases given
  | cons entry rest ih =>
    obtain ⟨k, w⟩ := entry
    unfold Entries.get? at given
    split at given
    · cases given
      exact List.mem_cons_self
    · exact List.mem_cons_of_mem _ (ih given)

theorem Value.mem_members_single {mark : Option Nat} {k v : Value} :
    v ∈ (@Value.mapping mark [(k, v)]).members :=
  List.mem_singleton.2 rfl

namespace Effect

/-! The argument of an effect, and the effect. -/

/-- The types of the line that a text effect says. One that is no text goes by what it is written as. -/
inductive TypesFrom : Option Value → List String → Prop where
  | default : TypesFrom none [LineType.normal.name]
  | one (name : String) : TypesFrom (some (.text name)) [name]
  | each {mark : Option Nat} {items : List Value}
      (writable : ∀ item ∈ items, item.isWritable = true) :
      TypesFrom (some (@Value.list mark items)) (items.map Value.display)

inductive TextFrom : Value → Effect → Prop where
  | words (words : String) : TextFrom (.text words) (.text words [LineType.normal.name])
  | fields {mark : Option Nat} {entries : Entries} {types : List String}
      (typed : TypesFrom (Entries.get? entries "types") types) :
      TextFrom (@Value.mapping mark entries) (.text (Entries.getD entries "text" "") types)

inductive MutateFrom : Value → Effect → Prop where
  | fields {mark : Option Nat} {entries : Entries} {key delta : Value} {n : Int}
      (named : Entries.get? entries "key" = some key)
      (given : Entries.get? entries "delta" = some delta) (amount : delta.toInt = .ok n) :
      MutateFrom (@Value.mapping mark entries) (.mutate key n (Entries.getD entries "reason" .null))

inductive GoToFrom : Value → Effect → Prop where
  | name (site : String) : GoToFrom (.text site) (.goTo site false)
  | fields {mark : Option Nat} {entries : Entries} {site : Value}
      (given : Entries.get? entries "site" = some site) :
      GoToFrom (@Value.mapping mark entries)
        (.goTo site (Entries.getD entries "instantly" (.bool false)).isTruthy)

inductive RefreshFrom : Value → Effect → Prop where
  | all {v : Value} (absent : v.isTruthy = false) : RefreshFrom v (.refresh true true)
  | fields {mark : Option Nat} (entries : Entries) :
      RefreshFrom (@Value.mapping mark entries)
        (.refresh (Entries.getD entries "state" (.bool true)).isTruthy
          (Entries.getD entries "options" (.bool true)).isTruthy)

end Effect

mutual

inductive Action.From : Value → Action → Prop where
  | named (name : String) : Action.From (.text name) (.named name)
  | list {mark : Option Nat} {items : List Value} {effects : List Effect}
      (each : List.Forall₂ Effect.From items effects) :
      Action.From (@Value.list mark items) (.scripted effects)
  | idle {mark : Option Nat} {entries : Entries} (missing : Entries.get? entries "effects" = none) :
      Action.From (@Value.mapping mark entries) (.scripted [])
  | effects {mark inner : Option Nat} {entries : Entries} {items : List Value} {action : Action}
      (given : Entries.get? entries "effects" = some (@Value.list inner items))
      (listed : Action.From (@Value.list inner items) action) :
      Action.From (@Value.mapping mark entries) action

inductive Effect.From : Value → Effect → Prop where
  | text {mark : Option Nat} {v : Value} {effect : Effect} (form : Effect.TextFrom v effect) :
      Effect.From (@Value.mapping mark [(.text "text", v)]) effect
  | mutate {mark : Option Nat} {v : Value} {effect : Effect} (form : Effect.MutateFrom v effect) :
      Effect.From (@Value.mapping mark [(.text "mutate", v)]) effect
  | goTo {mark : Option Nat} {v : Value} {effect : Effect} (form : Effect.GoToFrom v effect) :
      Effect.From (@Value.mapping mark [(.text "go_to", v)]) effect
  | trigger {mark : Option Nat} (event : String) :
      Effect.From (@Value.mapping mark [(.text "trigger", .text event)]) (.trigger event)
  | call {mark : Option Nat} (action : String) :
      Effect.From (@Value.mapping mark [(.text "call", .text action)]) (.call action)
  | offer {mark : Option Nat} {v : Value} {choices : List Choice}
      (form : Choice.OfferedFrom v choices) :
      Effect.From (@Value.mapping mark [(.text "options", v)]) (.offer choices)
  | refresh {mark : Option Nat} {v : Value} {effect : Effect} (form : Effect.RefreshFrom v effect) :
      Effect.From (@Value.mapping mark [(.text "show_state", v)]) effect

/-- What is not given offers nothing. -/
inductive Choice.OfferedFrom : Value → List Choice → Prop where
  | nothing {v : Value} (absent : v.isTruthy = false) : Choice.OfferedFrom v []
  | list {mark : Option Nat} {items : List Value} {choices : List Choice}
      (each : List.Forall₂ Choice.From items choices) :
      Choice.OfferedFrom (@Value.list mark items) choices

inductive Choice.From : Value → Choice → Prop where
  | of {mark : Option Nat} {entries : Entries} {v : Value} {action : Action}
      (writable : (Entries.getD entries "text" "").isWritable = true)
      (given : Entries.get? entries "action" = some v) (acts : Action.From v action) :
      Choice.From (@Value.mapping mark entries)
        ⟨.text (Entries.getD entries "text" "").display, action⟩

end

theorem mapM_toText_eq_ok_iff {items : List Value} {texts : List String} :
    items.mapM Value.toText = .ok texts ↔
      (∀ item ∈ items, item.isWritable = true) ∧ texts = items.map Value.display := by
  induction items generalizing texts with
  | nil =>
    constructor
    · intro done
      cases done
      exact ⟨by simp, rfl⟩
    · rintro ⟨-, rfl⟩
      rfl
  | cons item rest ih =>
    constructor
    · intro done
      obtain ⟨first, others, made, mapped, rfl⟩ := mapM_cons_eq_ok done
      obtain ⟨writable, rfl⟩ := ih.1 mapped
      unfold Value.toText at made
      split at made
      · rename_i one
        cases made
        exact ⟨by simpa [one] using writable, rfl⟩
      · cases made
    · rintro ⟨writable, rfl⟩
      rw [List.forall_mem_cons] at writable
      rw [List.mapM_cons, ih.2 ⟨writable.2, rfl⟩, Value.toText, if_pos writable.1]
      rfl

/-- Data is read, as whatever it stands for, just where it has the form. The four go together: each reader
hands what stands inside to another. -/
structure Value.Formed (v : Value) : Prop where
  action : ∀ action, Action.read v = .ok action ↔ Action.From v action
  effect : ∀ effect, Effect.read v = .ok effect ↔ Effect.From v effect
  offer : ∀ choices, Choice.readOffer v = .ok choices ↔ Choice.OfferedFrom v choices
  choice : ∀ choice, Choice.read v = .ok choice ↔ Choice.From v choice

section

variable {items : List Value} (inside : ∀ item ∈ items, item.Formed)
include inside

theorem Effect.readAll_iff_of_mem {effects : List Effect} :
    Effect.readAll items = .ok effects ↔ List.Forall₂ Effect.From items effects := by
  rw [Effect.readAll_eq]
  exact mapM_eq_ok_iff_of_mem fun item listed => (inside item listed).effect

theorem Choice.readAll_iff_of_mem {choices : List Choice} :
    Choice.readAll items = .ok choices ↔ List.Forall₂ Choice.From items choices := by
  rw [Choice.readAll_eq]
  exact mapM_eq_ok_iff_of_mem fun item listed => (inside item listed).choice

end

namespace Effect

variable {v : Value} {effect : Effect}

/-- Only a mapping of one kind to its argument is looked into. -/
theorem read_of_not_single (other : ∀ mark kind argument, v ≠ @Value.mapping mark [(kind, argument)]) :
    Effect.read v = .error (.malformed (.effect v)) := by
  cases v with
  | mapping entries =>
    cases entries with
    | nil => rfl
    | cons entry rest =>
      cases rest with
      | nil => exact absurd rfl (other _ entry.1 entry.2)
      | cons second rest => rfl
  | _ => rfl

theorem readText_eq_ok_iff : readText v = .ok effect ↔ TextFrom v effect := by
  constructor
  · intro read
    cases v with
    | text words =>
      cases read
      exact .words words
    | mapping entries =>
      unfold readText at read
      dsimp only at read
      split at read
      · rename_i missing
        cases read
        exact .fields (missing ▸ .default)
      · rename_i name given
        cases read
        exact .fields (given ▸ .one name)
      · rename_i items given
        obtain ⟨types, all, made⟩ := bind_eq_ok read
        cases made
        obtain ⟨writable, rfl⟩ := mapM_toText_eq_ok_iff.1 all
        exact .fields (given ▸ .each writable)
      · cases read
    | _ => cases read
  · intro form
    cases form with
    | words words => rfl
    | @fields _ entries types typed =>
      simp only [readText]
      generalize Entries.get? entries "types" = given at typed
      cases typed with
      | default => rfl
      | one name => rfl
      | each writable =>
        dsimp only
        rw [mapM_toText_eq_ok_iff.2 ⟨writable, rfl⟩]
        rfl

theorem readMutate_eq_ok_iff : readMutate v = .ok effect ↔ MutateFrom v effect := by
  constructor
  · intro read
    cases v with
    | mapping entries =>
      unfold readMutate at read
      dsimp only at read
      split at read
      · rename_i key delta named given
        obtain ⟨n, amount, made⟩ := bind_eq_ok read
        cases made
        exact .fields named given amount
      · cases read
    | _ => cases read
  · intro form
    cases form with
    | fields named given amount =>
      simp only [readMutate, named, given, amount]
      rfl

theorem readGoTo_eq_ok_iff : readGoTo v = .ok effect ↔ GoToFrom v effect := by
  constructor
  · intro read
    cases v with
    | text site =>
      cases read
      exact .name site
    | mapping entries =>
      unfold readGoTo at read
      dsimp only at read
      split at read
      · rename_i site given
        cases read
        exact .fields given
      · cases read
    | _ => cases read
  · intro form
    cases form with
    | name site => rfl
    | fields given => simp only [readGoTo, given]

theorem readRefresh_eq_ok_iff : readRefresh v = .ok effect ↔ RefreshFrom v effect := by
  constructor
  · intro read
    by_cases given : v.isTruthy = true
    · obtain ⟨entries, mapping, made⟩ := bind_eq_ok read
      rw [Value.orElse, if_pos given] at mapping
      cases v with
      | mapping own =>
        cases mapping
        cases made
        exact .fields entries
      | _ => cases mapping
    · rw [readRefresh, Value.orElse, if_neg given] at read
      cases read
      exact .all (Bool.eq_false_iff.2 given)
  · intro form
    cases form with
    | all absent =>
      rw [readRefresh, Value.orElse, absent]
      rfl
    | fields entries =>
      rw [readRefresh, Value.orElse]
      cases entries with
      | nil => rfl
      | cons entry rest => rfl

end Effect

section

variable {v : Value} (inside : ∀ member ∈ v.members, member.Formed)
include inside

theorem Action.read_iff_of_members (action : Action) :
    Action.read v = .ok action ↔ Action.From v action := by
  constructor
  · intro read
    cases v with
    | text name =>
      cases read
      exact .named name
    | list items =>
      obtain ⟨effects, all, made⟩ := bind_eq_ok read
      cases made
      exact .list ((Effect.readAll_iff_of_mem inside).1 all)
    | mapping entries =>
      rw [Action.read, Action.readEntries_eq] at read
      split at read
      · rename_i w given
        cases w with
        | list items =>
          have within := Value.mem_members_of_get? none given
          exact .effects given (((inside _ within).action action).1 read)
        | _ => cases read
      · rename_i missing
        cases read
        exact .idle missing
    | _ => cases read
  · intro form
    cases form with
    | named name => rfl
    | list each =>
      have all := (Effect.readAll_iff_of_mem inside).2 each
      unfold Value.members at all
      rw [Action.read, all]
      rfl
    | idle missing => rw [Action.read, Action.readEntries_eq, missing]
    | effects given listed =>
      have within := Value.mem_members_of_get? none given
      rw [Action.read, Action.readEntries_eq, given]
      exact ((inside _ within).action action).2 listed

theorem Effect.read_iff_of_members (effect : Effect) :
    Effect.read v = .ok effect ↔ Effect.From v effect := by
  constructor
  · intro read
    by_cases single : ∃ mark kind argument, v = @Value.mapping mark [(kind, argument)]
    · obtain ⟨mark, kind, argument, rfl⟩ := single
      unfold Effect.read at read
      split at read
      · exact .text (readText_eq_ok_iff.1 read)
      · exact .mutate (readMutate_eq_ok_iff.1 read)
      · exact .goTo (readGoTo_eq_ok_iff.1 read)
      · cases argument with
        | text event =>
          cases read
          exact .trigger event
        | _ => cases read
      · cases argument with
        | text action =>
          cases read
          exact .call action
        | _ => cases read
      · obtain ⟨choices, offered, made⟩ := bind_eq_ok read
        cases made
        exact .offer (((inside argument Value.mem_members_single).offer choices).1 offered)
      · exact .refresh (readRefresh_eq_ok_iff.1 read)
      · cases read
    · rw [read_of_not_single fun mark kind argument same => single ⟨mark, kind, argument, same⟩] at read
      cases read
  · intro form
    cases form with
    | text form => exact readText_eq_ok_iff.2 form
    | mutate form => exact readMutate_eq_ok_iff.2 form
    | goTo form => exact readGoTo_eq_ok_iff.2 form
    | trigger event => rfl
    | call action => rfl
    | @offer _ argument choices form =>
      rw [Effect.read, ((inside argument Value.mem_members_single).offer choices).2 form]
      rfl
    | refresh form => exact readRefresh_eq_ok_iff.2 form

theorem Choice.readOffer_iff_of_members (choices : List Choice) :
    Choice.readOffer v = .ok choices ↔ Choice.OfferedFrom v choices := by
  constructor
  · intro read
    cases v with
    | list items => exact .list ((Choice.readAll_iff_of_mem inside).1 read)
    | text s =>
      unfold Choice.readOffer at read
      split at read
      · rename_i none
        cases read
        refine .nothing ?_
        by_contra given
        have some := Text.symbols_ne_nil (s := s) (by simpa [Value.isTruthy] using given)
        contradiction
      · cases read
    | mapping entries =>
      cases entries with
      | nil =>
        cases read
        exact .nothing rfl
      | cons entry rest => cases read
    | _ =>
      simp only [Choice.readOffer] at read
      split at read
      · cases read
      · rename_i absent
        cases read
        exact .nothing (Bool.eq_false_iff.2 absent)
  · intro form
    cases form with
    | list each => exact (Choice.readAll_iff_of_mem inside).2 each
    | nothing absent =>
      cases v with
      | list items =>
        cases items with
        | nil => rfl
        | cons item rest => cases absent
      | text s =>
        have empty : s = "" := by simpa [Value.isTruthy] using absent
        rw [empty]
        rfl
      | mapping entries =>
        cases entries with
        | nil => rfl
        | cons entry rest => cases absent
      | _ =>
        simp only [Choice.readOffer]
        rw [if_neg (Bool.eq_false_iff.1 absent)]

theorem Choice.read_iff_of_members (choice : Choice) :
    Choice.read v = .ok choice ↔ Choice.From v choice := by
  constructor
  · intro read
    cases v with
    | mapping entries =>
      rw [Choice.read, Choice.readAction?_eq] at read
      cases given : Entries.get? entries "action" with
      | none =>
        rw [given] at read
        cases read
      | some w =>
        rw [given] at read
        obtain ⟨text, written, read⟩ := bind_eq_ok read
        obtain ⟨action, acts, made⟩ := bind_eq_ok read
        cases made
        unfold Value.toText at written
        split at written
        · rename_i writable
          cases written
          have within := Value.mem_members_of_get? none given
          exact .of writable given (((inside w within).action action).1 acts)
        · cases written
    | _ => cases read
  · intro form
    cases form with
    | @of _ entries w action writable given acts =>
      have within := Value.mem_members_of_get? none given
      have read := ((inside w within).action action).2 acts
      rw [Choice.read, Choice.readAction?_eq, given]
      simp only [Option.map_some, Value.toText, writable, read]
      rfl

theorem Value.formed_of_members : v.Formed :=
  ⟨Action.read_iff_of_members inside, Effect.read_iff_of_members inside,
    Choice.readOffer_iff_of_members inside, Choice.read_iff_of_members inside⟩

end

theorem Value.formed (v : Value) : v.Formed := by
  induction v using Value.members_induction with
  | whole v inside => exact formed_of_members inside

end Gamebook
