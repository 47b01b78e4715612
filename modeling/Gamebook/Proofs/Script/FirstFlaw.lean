import Gamebook.Proofs.Script.Filling
import Gamebook.Proofs.Script.Form

/-! What data that is no action is refused for.

Of all that is wrong with such data, the flaw of the first part that has one decides, in the order in
which the parts are written: what stands before it is as it should be.
-/

set_option autoImplicit false

namespace Gamebook

/-- What can be wrong with a part of an action. -/
inductive Flaw where
  /-- The part has none of its forms. -/
  | form (cause : Malformed)
  /-- An amount cannot be taken for a whole number. -/
  | amount {delta : Value} {fault : Fault} (refused : delta.toInt = .error fault)
  /-- What is offered cannot be run through. -/
  | options
  /-- What is to be shown again is given, and is no mapping. -/
  | refresh
  /-- A text cannot be written. -/
  | wording

def Flaw.fault : Flaw → Fault
  | .form cause => .malformed cause
  | @amount _ fault _ => fault
  | .options => .notIterable
  | .refresh => .notMapping
  | .wording => .badNumeral

namespace Effect

/-! The argument of an effect, and what is wrong with it. -/

inductive TextFlaw : Value → Flaw → Prop where
  | shape {v : Value} (words : ∀ s, v ≠ .text s)
      (fields : ∀ mark entries, v ≠ @Value.mapping mark entries) :
      TextFlaw v (.form (.textEffect v))
  | types {mark : Option Nat} {entries : Entries} {types : Value}
      (given : Entries.get? entries "types" = some types) (one : ∀ s, types ≠ .text s)
      (list : ∀ mark items, types ≠ @Value.list mark items) :
      TextFlaw (@Value.mapping mark entries) (.form (.textTypes types))
  | wording {mark inner : Option Nat} {entries : Entries} {items : List Value} {item : Value}
      (given : Entries.get? entries "types" = some (@Value.list inner items)) (listed : item ∈ items)
      (unwritable : item.isWritable = false) : TextFlaw (@Value.mapping mark entries) .wording

inductive MutateFlaw : Value → Flaw → Prop where
  | shape {v : Value} (fields : ∀ mark entries, v ≠ @Value.mapping mark entries) :
      MutateFlaw v (.form (.mutateEffect v))
  | fields {mark : Option Nat} {entries : Entries}
      (missing : Entries.get? entries "key" = none ∨ Entries.get? entries "delta" = none) :
      MutateFlaw (@Value.mapping mark entries) (.form (.mutateEffect (@Value.mapping mark entries)))
  | amount {mark : Option Nat} {entries : Entries} {key delta : Value} {fault : Fault}
      (named : Entries.get? entries "key" = some key)
      (given : Entries.get? entries "delta" = some delta) (refused : delta.toInt = .error fault) :
      MutateFlaw (@Value.mapping mark entries) (.amount refused)

inductive GoToFlaw : Value → Flaw → Prop where
  | shape {v : Value} (name : ∀ s, v ≠ .text s)
      (fields : ∀ mark entries, v ≠ @Value.mapping mark entries) :
      GoToFlaw v (.form (.goToEffect v))
  | fields {mark : Option Nat} {entries : Entries} (missing : Entries.get? entries "site" = none) :
      GoToFlaw (@Value.mapping mark entries) (.form (.goToEffect (@Value.mapping mark entries)))

inductive RefreshFlaw : Value → Flaw → Prop where
  | shape {v : Value} (given : v.isTruthy = true)
      (fields : ∀ mark entries, v ≠ @Value.mapping mark entries) : RefreshFlaw v .refresh

end Effect

mutual

/-- The first flaw of data that should be an action. -/
inductive Action.FirstFlaw : Value → Flaw → Prop where
  | shape {v : Value} (name : ∀ s, v ≠ .text s) (list : ∀ mark items, v ≠ @Value.list mark items)
      (mapping : ∀ mark entries, v ≠ @Value.mapping mark entries) :
      Action.FirstFlaw v (.form (.action v))
  | effect {mark : Option Nat} {before after : List Value} {v : Value} {flaw : Flaw}
      (fine : ∀ item ∈ before, ∃ effect, Effect.From item effect) (first : Effect.FirstFlaw v flaw) :
      Action.FirstFlaw (@Value.list mark (before ++ v :: after)) flaw
  | noList {mark : Option Nat} {entries : Entries} {v : Value}
      (given : Entries.get? entries "effects" = some v)
      (list : ∀ mark items, v ≠ @Value.list mark items) :
      Action.FirstFlaw (@Value.mapping mark entries) (.form (.effectList v))
  | effects {mark inner : Option Nat} {entries : Entries} {items : List Value} {flaw : Flaw}
      (given : Entries.get? entries "effects" = some (@Value.list inner items))
      (first : Action.FirstFlaw (@Value.list inner items) flaw) :
      Action.FirstFlaw (@Value.mapping mark entries) flaw

inductive Effect.FirstFlaw : Value → Flaw → Prop where
  | shape {v : Value} (other : ∀ mark kind argument, v ≠ @Value.mapping mark [(kind, argument)]) :
      Effect.FirstFlaw v (.form (.effect v))
  | kind {mark : Option Nat} {kind v : Value} (unknown : ∀ name ∈ Effect.kinds, kind ≠ .text name) :
      Effect.FirstFlaw (@Value.mapping mark [(kind, v)]) (.form (.effectKind kind))
  | text {mark : Option Nat} {v : Value} {flaw : Flaw} (first : Effect.TextFlaw v flaw) :
      Effect.FirstFlaw (@Value.mapping mark [(.text "text", v)]) flaw
  | mutate {mark : Option Nat} {v : Value} {flaw : Flaw} (first : Effect.MutateFlaw v flaw) :
      Effect.FirstFlaw (@Value.mapping mark [(.text "mutate", v)]) flaw
  | goTo {mark : Option Nat} {v : Value} {flaw : Flaw} (first : Effect.GoToFlaw v flaw) :
      Effect.FirstFlaw (@Value.mapping mark [(.text "go_to", v)]) flaw
  | trigger {mark : Option Nat} {v : Value} (name : ∀ s, v ≠ .text s) :
      Effect.FirstFlaw (@Value.mapping mark [(.text "trigger", v)]) (.form (.namedEffect "trigger" v))
  | call {mark : Option Nat} {v : Value} (name : ∀ s, v ≠ .text s) :
      Effect.FirstFlaw (@Value.mapping mark [(.text "call", v)]) (.form (.namedEffect "call" v))
  | offer {mark : Option Nat} {v : Value} {flaw : Flaw} (first : Choice.OfferFlaw v flaw) :
      Effect.FirstFlaw (@Value.mapping mark [(.text "options", v)]) flaw
  | refresh {mark : Option Nat} {v : Value} {flaw : Flaw} (first : Effect.RefreshFlaw v flaw) :
      Effect.FirstFlaw (@Value.mapping mark [(.text "show_state", v)]) flaw

inductive Choice.OfferFlaw : Value → Flaw → Prop where
  | shape {v : Value} (given : v.isTruthy = true) (one : v.items = .error .notIterable) :
      Choice.OfferFlaw v .options
  /-- A text or a mapping is run through, and none of its parts is an option. -/
  | parts {v part : Value} {parts : List Value} (list : ∀ mark items, v ≠ @Value.list mark items)
      (runs : v.items = .ok (part :: parts)) : Choice.OfferFlaw v (.form (.option part))
  | choice {mark : Option Nat} {before after : List Value} {v : Value} {flaw : Flaw}
      (fine : ∀ item ∈ before, ∃ choice, Choice.From item choice) (first : Choice.FirstFlaw v flaw) :
      Choice.OfferFlaw (@Value.list mark (before ++ v :: after)) flaw

inductive Choice.FirstFlaw : Value → Flaw → Prop where
  | shape {v : Value} (mapping : ∀ mark entries, v ≠ @Value.mapping mark entries) :
      Choice.FirstFlaw v (.form (.option v))
  | idle {mark : Option Nat} {entries : Entries} (missing : Entries.get? entries "action" = none) :
      Choice.FirstFlaw (@Value.mapping mark entries) (.form (.option (@Value.mapping mark entries)))
  | wording {mark : Option Nat} {entries : Entries} {v : Value}
      (given : Entries.get? entries "action" = some v)
      (unwritable : (Entries.getD entries "text" "").isWritable = false) :
      Choice.FirstFlaw (@Value.mapping mark entries) .wording
  | action {mark : Option Nat} {entries : Entries} {v : Value} {flaw : Flaw}
      (given : Entries.get? entries "action" = some v)
      (writable : (Entries.getD entries "text" "").isWritable = true)
      (first : Action.FirstFlaw v flaw) : Choice.FirstFlaw (@Value.mapping mark entries) flaw

end

theorem mapM_toText_eq_error_iff {items : List Value} {fault : Fault} :
    items.mapM Value.toText = .error fault ↔
      fault = .badNumeral ∧ ∃ item ∈ items, item.isWritable = false := by
  constructor
  · intro failed
    obtain ⟨item, listed, failed⟩ := exists_of_mapM_eq_error failed
    obtain ⟨rfl, unwritable⟩ := Value.toText_eq_error failed
    exact ⟨rfl, item, listed, unwritable⟩
  · rintro ⟨rfl, item, listed, unwritable⟩
    have failed : item.toText = .error .badNumeral := by
      rw [Value.toText, if_neg (Bool.eq_false_iff.1 unwritable)]
    obtain ⟨first, broken⟩ := exists_mapM_eq_error listed failed
    obtain ⟨_, _, again⟩ := exists_of_mapM_eq_error broken
    rw [broken, (Value.toText_eq_error again).1]

namespace Effect

variable {v : Value} {fault : Fault}

theorem readText_eq_error_iff :
    readText v = .error fault ↔ ∃ flaw, TextFlaw v flaw ∧ flaw.fault = fault := by
  constructor
  · intro refused
    cases v with
    | text words => cases refused
    | mapping entries =>
      unfold readText at refused
      dsimp only at refused
      split at refused
      · cases refused
      · cases refused
      · rename_i items given
        rcases bind_eq_error refused with refused | ⟨_, _, refused⟩
        · obtain ⟨rfl, item, listed, unwritable⟩ := mapM_toText_eq_error_iff.1 refused
          exact ⟨_, .wording given listed unwritable, rfl⟩
        · cases refused
      · rename_i types one list given
        cases refused
        exact ⟨_, .types given one fun _ items => list _ items, rfl⟩
    | _ =>
      cases refused
      exact ⟨_, .shape (by simp) (by simp), rfl⟩
  · rintro ⟨flaw, first, rfl⟩
    cases first with
    | shape words fields =>
      cases v with
      | text s => exact absurd rfl (words s)
      | mapping entries => exact absurd rfl (fields _ entries)
      | _ => rfl
    | @types _ entries types given one list =>
      simp only [readText, given]
      cases types with
      | text s => exact absurd rfl (one s)
      | list items => exact absurd rfl (list _ items)
      | _ => rfl
    | @wording _ _ entries items item given listed unwritable =>
      simp only [readText, given]
      rw [mapM_toText_eq_error_iff.2 ⟨rfl, item, listed, unwritable⟩]
      rfl

theorem readMutate_eq_error_iff :
    readMutate v = .error fault ↔ ∃ flaw, MutateFlaw v flaw ∧ flaw.fault = fault := by
  constructor
  · intro refused
    cases v with
    | mapping entries =>
      unfold readMutate at refused
      dsimp only at refused
      split at refused
      · rename_i key delta named given
        rcases bind_eq_error refused with refused | ⟨_, _, refused⟩
        · exact ⟨_, .amount named given refused, rfl⟩
        · cases refused
      · rename_i incomplete
        cases refused
        refine ⟨_, .fields ?_, rfl⟩
        cases named : Entries.get? entries "key" with
        | none => exact .inl rfl
        | some key =>
          cases given : Entries.get? entries "delta" with
          | none => exact .inr rfl
          | some delta => exact absurd given (incomplete key delta named)
    | _ =>
      cases refused
      exact ⟨_, .shape (by simp), rfl⟩
  · rintro ⟨flaw, first, rfl⟩
    cases first with
    | shape fields =>
      cases v with
      | mapping entries => exact absurd rfl (fields _ entries)
      | _ => rfl
    | @fields _ entries missing =>
      rcases missing with missing | missing
      · simp only [readMutate, missing]
        rfl
      · simp only [readMutate, missing]
        cases Entries.get? entries "key" <;> rfl
    | amount named given refused =>
      simp only [readMutate, named, given, refused]
      rfl

theorem readGoTo_eq_error_iff :
    readGoTo v = .error fault ↔ ∃ flaw, GoToFlaw v flaw ∧ flaw.fault = fault := by
  constructor
  · intro refused
    cases v with
    | text site => cases refused
    | mapping entries =>
      unfold readGoTo at refused
      dsimp only at refused
      split at refused
      · cases refused
      · rename_i missing
        cases refused
        exact ⟨_, .fields missing, rfl⟩
    | _ =>
      cases refused
      exact ⟨_, .shape (by simp) (by simp), rfl⟩
  · rintro ⟨flaw, first, rfl⟩
    cases first with
    | shape name fields =>
      cases v with
      | text s => exact absurd rfl (name s)
      | mapping entries => exact absurd rfl (fields _ entries)
      | _ => rfl
    | fields missing =>
      simp only [readGoTo, missing]
      rfl

theorem readRefresh_eq_error_iff :
    readRefresh v = .error fault ↔ ∃ flaw, RefreshFlaw v flaw ∧ flaw.fault = fault := by
  constructor
  · intro refused
    rcases bind_eq_error refused with refused | ⟨_, _, refused⟩
    · by_cases given : v.isTruthy = true
      · rw [Value.orElse, if_pos given] at refused
        cases v with
        | mapping entries => cases refused
        | _ =>
          cases refused
          exact ⟨_, .shape given (by simp), rfl⟩
      · rw [Value.orElse, if_neg given] at refused
        cases refused
    · cases refused
  · rintro ⟨flaw, first, rfl⟩
    cases first with
    | shape given fields =>
      rw [readRefresh, Value.orElse, if_pos given]
      cases v with
      | mapping entries => exact absurd rfl (fields _ entries)
      | _ => rfl

end Effect

/-- Data is refused, as whatever it should stand for, just for its first flaw. -/
structure Value.Judged (v : Value) : Prop where
  action : ∀ fault,
    Action.read v = .error fault ↔ ∃ flaw, Action.FirstFlaw v flaw ∧ flaw.fault = fault
  effect : ∀ fault,
    Effect.read v = .error fault ↔ ∃ flaw, Effect.FirstFlaw v flaw ∧ flaw.fault = fault
  offer : ∀ fault,
    Choice.readOffer v = .error fault ↔ ∃ flaw, Choice.OfferFlaw v flaw ∧ flaw.fault = fault
  choice : ∀ fault,
    Choice.read v = .error fault ↔ ∃ flaw, Choice.FirstFlaw v flaw ∧ flaw.fault = fault

section

variable {items : List Value} (inside : ∀ item ∈ items, item.Judged)
include inside

theorem Effect.readAll_eq_error_iff_of_mem {fault : Fault} :
    Effect.readAll items = .error fault ↔
      ∃ before v after, items = before ++ v :: after ∧
        (∀ item ∈ before, ∃ effect, Effect.From item effect) ∧
        ∃ flaw, Effect.FirstFlaw v flaw ∧ flaw.fault = fault := by
  rw [Effect.readAll_eq]
  exact mapM_eq_error_iff_of_mem (fun v => v.formed.effect) fun v listed => (inside v listed).effect

theorem Choice.readAll_eq_error_iff_of_mem {fault : Fault} :
    Choice.readAll items = .error fault ↔
      ∃ before v after, items = before ++ v :: after ∧
        (∀ item ∈ before, ∃ choice, Choice.From item choice) ∧
        ∃ flaw, Choice.FirstFlaw v flaw ∧ flaw.fault = fault := by
  rw [Choice.readAll_eq]
  exact mapM_eq_error_iff_of_mem (fun v => v.formed.choice) fun v listed => (inside v listed).choice

end

section

variable {v : Value} (inside : ∀ member ∈ v.members, member.Judged)
include inside

theorem Action.read_eq_error_iff_of_members (fault : Fault) :
    Action.read v = .error fault ↔ ∃ flaw, Action.FirstFlaw v flaw ∧ flaw.fault = fault := by
  constructor
  · intro refused
    cases v with
    | text name => cases refused
    | list items =>
      rcases bind_eq_error refused with refused | ⟨_, _, refused⟩
      · obtain ⟨before, v, after, rfl, fine, flaw, first, rfl⟩ :=
          (Effect.readAll_eq_error_iff_of_mem inside).1 refused
        exact ⟨flaw, .effect fine first, rfl⟩
      · cases refused
    | mapping entries =>
      rw [Action.read, Action.readEntries_eq] at refused
      split at refused
      · rename_i w given
        cases w with
        | list items =>
          have within := Value.mem_members_of_get? none given
          obtain ⟨flaw, first, rfl⟩ := ((inside _ within).action fault).1 refused
          exact ⟨flaw, .effects given first, rfl⟩
        | _ =>
          cases refused
          exact ⟨_, .noList given (by simp), rfl⟩
      · cases refused
    | _ =>
      cases refused
      exact ⟨_, .shape (by simp) (by simp) (by simp), rfl⟩
  · rintro ⟨flaw, first, rfl⟩
    cases first with
    | shape name list mapping =>
      cases v with
      | text s => exact absurd rfl (name s)
      | list items => exact absurd rfl (list _ items)
      | mapping entries => exact absurd rfl (mapping _ entries)
      | _ => rfl
    | @effect _ before after w _ fine first =>
      have refused := (Effect.readAll_eq_error_iff_of_mem inside).2
        ⟨before, w, after, rfl, fine, flaw, first, rfl⟩
      unfold Value.members at refused
      rw [Action.read, refused]
      rfl
    | @noList _ entries w given list =>
      rw [Action.read, Action.readEntries_eq, given]
      cases w with
      | list items => exact absurd rfl (list _ items)
      | _ => rfl
    | effects given first =>
      have within := Value.mem_members_of_get? none given
      rw [Action.read, Action.readEntries_eq, given]
      exact ((inside _ within).action flaw.fault).2 ⟨flaw, first, rfl⟩

theorem Effect.read_eq_error_iff_of_members (fault : Fault) :
    Effect.read v = .error fault ↔ ∃ flaw, Effect.FirstFlaw v flaw ∧ flaw.fault = fault := by
  constructor
  · intro refused
    by_cases single : ∃ mark kind argument, v = @Value.mapping mark [(kind, argument)]
    · obtain ⟨mark, kind, argument, rfl⟩ := single
      unfold Effect.read at refused
      split at refused
      · obtain ⟨flaw, first, rfl⟩ := readText_eq_error_iff.1 refused
        exact ⟨flaw, .text first, rfl⟩
      · obtain ⟨flaw, first, rfl⟩ := readMutate_eq_error_iff.1 refused
        exact ⟨flaw, .mutate first, rfl⟩
      · obtain ⟨flaw, first, rfl⟩ := readGoTo_eq_error_iff.1 refused
        exact ⟨flaw, .goTo first, rfl⟩
      · cases argument with
        | text event => cases refused
        | _ =>
          cases refused
          exact ⟨_, .trigger (by simp), rfl⟩
      · cases argument with
        | text action => cases refused
        | _ =>
          cases refused
          exact ⟨_, .call (by simp), rfl⟩
      · rcases bind_eq_error refused with refused | ⟨_, _, refused⟩
        · have judged := inside argument Value.mem_members_single
          obtain ⟨flaw, first, rfl⟩ := (judged.offer fault).1 refused
          exact ⟨flaw, .offer first, rfl⟩
        · cases refused
      · obtain ⟨flaw, first, rfl⟩ := readRefresh_eq_error_iff.1 refused
        exact ⟨flaw, .refresh first, rfl⟩
      · cases refused
        refine ⟨_, .kind fun name listed same => ?_, rfl⟩
        simp only [Effect.kinds, List.mem_cons, List.not_mem_nil, or_false] at listed
        rcases listed with rfl | rfl | rfl | rfl | rfl | rfl | rfl <;> contradiction
    · have other : ∀ mark kind argument, v ≠ @Value.mapping mark [(kind, argument)] :=
        fun mark kind argument same => single ⟨mark, kind, argument, same⟩
      rw [read_of_not_single other] at refused
      cases refused
      exact ⟨_, .shape other, rfl⟩
  · rintro ⟨flaw, first, rfl⟩
    cases first with
    | shape other => exact read_of_not_single other
    | @kind _ kind argument unknown =>
      unfold Effect.read
      split
      case h_8 => rfl
      all_goals exact absurd rfl (unknown _ (by simp [Effect.kinds]))
    | text first => exact readText_eq_error_iff.2 ⟨flaw, first, rfl⟩
    | mutate first => exact readMutate_eq_error_iff.2 ⟨flaw, first, rfl⟩
    | goTo first => exact readGoTo_eq_error_iff.2 ⟨flaw, first, rfl⟩
    | @trigger _ argument name =>
      cases argument with
      | text s => exact absurd rfl (name s)
      | _ => rfl
    | @call _ argument name =>
      cases argument with
      | text s => exact absurd rfl (name s)
      | _ => rfl
    | @offer _ argument _ first =>
      have judged := inside argument Value.mem_members_single
      have refused := (judged.offer flaw.fault).2 ⟨flaw, first, rfl⟩
      rw [Effect.read, refused]
      rfl
    | refresh first => exact readRefresh_eq_error_iff.2 ⟨flaw, first, rfl⟩

theorem Choice.readOffer_eq_error_iff_of_members (fault : Fault) :
    Choice.readOffer v = .error fault ↔ ∃ flaw, Choice.OfferFlaw v flaw ∧ flaw.fault = fault := by
  constructor
  · intro refused
    cases v with
    | list items =>
      obtain ⟨before, v, after, rfl, fine, flaw, first, rfl⟩ :=
        (Choice.readAll_eq_error_iff_of_mem inside).1 refused
      exact ⟨flaw, .choice fine first, rfl⟩
    | text s =>
      unfold Choice.readOffer at refused
      split at refused
      · cases refused
      · rename_i symbol rest symbols
        cases refused
        have runs : (Value.text s).items = .ok (.text (Text.ofSymbols [symbol]) ::
            rest.map fun symbol => .text (Text.ofSymbols [symbol])) := by
          rw [Value.items, symbols, List.map_cons]
        exact ⟨_, .parts (by simp) runs, rfl⟩
    | mapping entries =>
      cases entries with
      | nil => cases refused
      | cons entry rest =>
        cases refused
        exact ⟨_, .parts (by simp) rfl, rfl⟩
    | _ =>
      simp only [Choice.readOffer] at refused
      split at refused
      · rename_i given
        cases refused
        exact ⟨_, .shape given rfl, rfl⟩
      · cases refused
  · rintro ⟨flaw, first, rfl⟩
    cases first with
    | shape given one =>
      cases v with
      | list items => cases one
      | text s => cases one
      | mapping entries => cases one
      | _ =>
        simp only [Choice.readOffer]
        rw [if_pos given]
        rfl
    | parts list runs =>
      cases v with
      | list items => exact absurd rfl (list _ items)
      | text s =>
        rw [Value.items] at runs
        unfold Choice.readOffer
        split
        · rename_i none
          rw [none] at runs
          cases runs
        · rename_i symbol rest symbols
          rw [symbols] at runs
          cases runs
          rfl
      | mapping entries =>
        cases entries with
        | nil => cases runs
        | cons entry rest =>
          cases runs
          rfl
      | _ => cases runs
    | @choice _ before after w _ fine first =>
      exact (Choice.readAll_eq_error_iff_of_mem inside).2
        ⟨before, w, after, rfl, fine, flaw, first, rfl⟩

theorem Choice.read_eq_error_iff_of_members (fault : Fault) :
    Choice.read v = .error fault ↔ ∃ flaw, Choice.FirstFlaw v flaw ∧ flaw.fault = fault := by
  constructor
  · intro refused
    cases v with
    | mapping entries =>
      rw [Choice.read, Choice.readAction?_eq] at refused
      cases given : Entries.get? entries "action" with
      | none =>
        rw [given] at refused
        cases refused
        exact ⟨_, .idle given, rfl⟩
      | some w =>
        rw [given] at refused
        rcases bind_eq_error refused with refused | ⟨text, written, refused⟩
        · obtain ⟨rfl, unwritable⟩ := Value.toText_eq_error refused
          exact ⟨_, .wording given unwritable, rfl⟩
        · have writable : (Entries.getD entries "text" "").isWritable = true := by
            unfold Value.toText at written
            split at written
            · assumption
            · cases written
          rcases bind_eq_error refused with refused | ⟨_, _, refused⟩
          · have within := Value.mem_members_of_get? none given
            obtain ⟨flaw, first, rfl⟩ := ((inside w within).action fault).1 refused
            exact ⟨flaw, .action given writable first, rfl⟩
          · cases refused
    | _ =>
      cases refused
      exact ⟨_, .shape (by simp), rfl⟩
  · rintro ⟨flaw, first, rfl⟩
    cases first with
    | shape mapping =>
      cases v with
      | mapping entries => exact absurd rfl (mapping _ entries)
      | _ => rfl
    | idle missing =>
      rw [Choice.read, Choice.readAction?_eq, missing]
      rfl
    | wording given unwritable =>
      rw [Choice.read, Choice.readAction?_eq, given]
      simp only [Option.map_some, Value.toText, unwritable]
      rfl
    | @action _ entries w _ given writable first =>
      have within := Value.mem_members_of_get? none given
      have refused := ((inside w within).action flaw.fault).2 ⟨flaw, first, rfl⟩
      rw [Choice.read, Choice.readAction?_eq, given]
      simp only [Option.map_some, Value.toText, writable, refused]
      rfl

theorem Value.judged_of_members : v.Judged :=
  ⟨Action.read_eq_error_iff_of_members inside, Effect.read_eq_error_iff_of_members inside,
    Choice.readOffer_eq_error_iff_of_members inside, Choice.read_eq_error_iff_of_members inside⟩

end

theorem Value.judged (v : Value) : v.Judged := by
  induction v using Value.members_induction with
  | whole v inside => exact judged_of_members inside

theorem Value.isTruthy_of_items {v item : Value} {rest : List Value}
    (runs : v.items = .ok (item :: rest)) : v.isTruthy = true := by
  cases v with
  | list items =>
    cases runs
    rfl
  | text s =>
    by_cases empty : s = ""
    · rw [empty] at runs
      cases runs
    · simpa [isTruthy] using empty
  | mapping entries =>
    cases entries with
    | nil => cases runs
    | cons entry entries => rfl
  | _ => cases runs

/-! The first flaw is one of the flaws that data can have. -/

mutual

theorem Action.FirstFlaw.flawed {v : Value} {flaw : Flaw} (first : Action.FirstFlaw v flaw) :
    Action.Flawed v := by
  match first with
  | .shape name list mapping => exact .shape name list mapping
  | .effect _ first => exact .effect (by simp) first.flawed
  | .noList given list => exact .noList given list
  | .effects given first => exact .effects given first.flawed

theorem Effect.FirstFlaw.flawed {v : Value} {flaw : Flaw} (first : Effect.FirstFlaw v flaw) :
    Effect.Flawed v := by
  match first with
  | .shape other => exact .shape other
  | .kind unknown => exact .kind unknown
  | .text first => exact .text (Effect.readText_eq_error_iff.2 ⟨flaw, first, rfl⟩)
  | .mutate first => exact .mutate (Effect.readMutate_eq_error_iff.2 ⟨flaw, first, rfl⟩)
  | .goTo first => exact .goTo (Effect.readGoTo_eq_error_iff.2 ⟨flaw, first, rfl⟩)
  | .trigger name => exact .trigger name
  | .call name => exact .call name
  | .offer first => exact first.flawed
  | .refresh first => exact .refresh (Effect.readRefresh_eq_error_iff.2 ⟨flaw, first, rfl⟩)

theorem Choice.OfferFlaw.flawed {v : Value} {flaw : Flaw} (first : Choice.OfferFlaw v flaw)
    {mark : Option Nat} : Effect.Flawed (@Value.mapping mark [(.text "options", v)]) := by
  match first with
  | .shape given one =>
    refine .noList given fun mark items same => ?_
    rw [same] at one
    cases one
  | .parts list runs => exact .noList (Value.isTruthy_of_items runs) list
  | .choice _ first => exact .option (by simp) first.flawed

theorem Choice.FirstFlaw.flawed {v : Value} {flaw : Flaw} (first : Choice.FirstFlaw v flaw) :
    Choice.Flawed v := by
  match first with
  | .shape mapping => exact .shape mapping
  | .idle missing => exact .idle missing
  | .wording given unwritable => exact .text unwritable
  | .action given _ first => exact .action given first.flawed

end

/-- Data is refused as an action exactly when it has a flaw. -/
theorem Action.flawed_iff {v : Value} : Action.Flawed v ↔ ∃ fault, Action.read v = .error fault := by
  constructor
  · exact Action.Flawed.unread
  · rintro ⟨fault, refused⟩
    obtain ⟨flaw, first, -⟩ := (v.judged.action fault).1 refused
    exact first.flawed

theorem Value.toInt_eq_error {v : Value} {fault : Fault} (refused : v.toInt = .error fault) :
    fault = .badNumeral ∨ fault = .overflow ∨ fault = .notNumber := by
  cases v with
  | int n => cases refused
  | bool b => cases refused
  | float x =>
    simp only [toInt] at refused
    split at refused
    · cases refused
    · cases refused
      split
      · exact .inl rfl
      · exact .inr (.inl rfl)
  | text s =>
    simp only [toInt] at refused
    split at refused
    · cases refused
    · cases refused
      exact .inl rfl
  | _ =>
    cases refused
    exact .inr (.inr rfl)

theorem Flaw.reported_form (cause : Malformed) :
    (Flaw.form cause).fault.reported =
      if cause.quoted.all Value.isWritable then .malformed cause else .badNumeral :=
  rfl

/-- Only a part without a form is told as a fault of the script, if what is quoted can be written. -/
theorem Flaw.scriptName?_eq_iff (flaw : Flaw) :
    flaw.fault.reported.scriptName? = some "ScriptFormatError" ↔
      ∃ cause, flaw = .form cause ∧ cause.quoted.all Value.isWritable = true := by
  cases flaw with
  | form cause =>
    rw [reported_form]
    cases writable : cause.quoted.all Value.isWritable with
    | true => exact ⟨fun _ => ⟨cause, rfl, writable⟩, fun _ => rfl⟩
    | false =>
      refine ⟨fun named => (by cases named), ?_⟩
      rintro ⟨_, same, all⟩
      cases same
      rw [writable] at all
      cases all
  | amount refused =>
    rcases Value.toInt_eq_error refused with rfl | rfl | rfl <;>
      simp [fault, Fault.reported, Fault.quoted, Fault.scriptName?]
  | _ => simp [fault, Fault.reported, Fault.quoted, Fault.scriptName?]

/-- Data is read as an action just where it has the form of one, and then as what the form stands for;
a mapping that lists its effects is read as the list. All else is refused for its first flaw. This is
told as a fault of the script where a part has none of its forms and can be quoted, and nowhere else; where
it cannot be quoted, that is told instead. -/
theorem Action.read_grammar (v : Value) :
    (∀ action, Action.read v = .ok action ↔ Action.From v action) ∧
      (∀ (outer inner mark : Option Nat) (items : List Value),
        Action.read (@Value.mapping outer [(.text "effects", @Value.list inner items)]) =
          Action.read (@Value.list mark items)) ∧
      (∀ fault,
        Action.read v = .error fault ↔ ∃ flaw, Action.FirstFlaw v flaw ∧ flaw.fault = fault) ∧
      (∀ flaw : Flaw, flaw.fault.reported.scriptName? = some "ScriptFormatError" ↔
        ∃ cause, flaw = .form cause ∧ cause.quoted.all Value.isWritable = true) ∧
      ∀ cause, (Flaw.form cause).fault.reported =
        if cause.quoted.all Value.isWritable then .malformed cause else .badNumeral :=
  ⟨v.formed.action, fun _ _ _ _ => rfl, v.judged.action, Flaw.scriptName?_eq_iff, Flaw.reported_form⟩

-- The amount stands first, and it is no fault of the script.
example : Action.read (.ofList [
    .ofEntries [("mutate", .ofEntries [("key", "hp"), ("delta", "many")])],
    .ofEntries [("explode", .bool true)]]) = .error .badNumeral := rfl

/-- An option may have a number for its text. One of too many digits is refused, and so is such a number in
place of an action; neither is told as a fault of the script. -/
theorem Action.unwritable_wording :
    let offer (n : Int) : Value := .ofList [.ofEntries [("options", .ofList [.ofEntries [
      ("text", .int n), ("action", "stay")]])]]
    (∃ action, Action.read (offer 7) = .ok action) ∧
      Action.read (offer Text.numeralBound) = .error .badNumeral ∧
      Fault.badNumeral.reported.scriptName? = none ∧
      ∃ fault, Action.read (.int Text.numeralBound) = .error fault ∧
        fault.reported.scriptName? = none := by
  intro offer
  have writable : (Value.int 7).isWritable = true := by decide +kernel
  have unwritable : (Value.int Text.numeralBound).isWritable = false := by decide +kernel
  have form : Action.From (offer 7) (.scripted [.offer [⟨.text (Value.int 7).display, .named "stay"⟩]]) :=
    .list (.cons (.offer (.list (.cons (.of writable rfl (.named "stay")) .nil))) .nil)
  have first : Action.FirstFlaw (offer Text.numeralBound) .wording :=
    @Action.FirstFlaw.effect none [] [] _ _ (by simp)
      (.offer (@Choice.OfferFlaw.choice none [] [] _ _ (by simp) (.wording rfl unwritable)))
  exact ⟨⟨_, ((offer 7).formed.action _).2 form⟩,
    ((offer Text.numeralBound).judged.action _).2 ⟨.wording, first, rfl⟩, rfl,
    .malformed (.action (.int Text.numeralBound)), rfl, by decide +kernel⟩

end Gamebook
