import Gamebook.Proofs.Traversal
import Gamebook.Script.Grammar

/-! Data that cannot be read as an action.

A malformed part spoils all that it is nested in: an effect the list it stands in, an option the
effect that offers it, an action the option that has it.
-/

set_option autoImplicit false

namespace Gamebook

def Effect.kinds : List String :=
  ["text", "mutate", "go_to", "trigger", "call", "options", "show_state"]

mutual

inductive Action.Flawed : Value → Prop where
  /-- Neither a name, nor a list, nor a mapping. -/
  | shape {v : Value} (name : ∀ s, v ≠ .text s) (list : ∀ mark items, v ≠ @Value.list mark items)
      (mapping : ∀ mark entries, v ≠ @Value.mapping mark entries) : Action.Flawed v
  | effect {mark : Option Nat} {items : List Value} {v : Value} (member : v ∈ items)
      (flawed : Effect.Flawed v) : Action.Flawed (@Value.list mark items)
  | noList {mark : Option Nat} {entries : Entries} {v : Value}
      (given : Entries.get? entries "effects" = some v)
      (list : ∀ mark items, v ≠ @Value.list mark items) : Action.Flawed (@Value.mapping mark entries)
  | effects {mark inner : Option Nat} {entries : Entries} {items : List Value}
      (given : Entries.get? entries "effects" = some (@Value.list inner items))
      (flawed : Action.Flawed (@Value.list inner items)) : Action.Flawed (@Value.mapping mark entries)

inductive Effect.Flawed : Value → Prop where
  /-- Not a mapping of one kind to its argument. -/
  | shape {v : Value} (single : ∀ mark kind argument, v ≠ @Value.mapping mark [(kind, argument)]) :
      Effect.Flawed v
  | kind {mark : Option Nat} {kind v : Value} (unknown : ∀ name ∈ Effect.kinds, kind ≠ .text name) :
      Effect.Flawed (@Value.mapping mark [(kind, v)])
  | text {mark : Option Nat} {v : Value} {fault : Fault}
      (unread : Effect.readText v = .error fault) :
      Effect.Flawed (@Value.mapping mark [(.text "text", v)])
  | mutate {mark : Option Nat} {v : Value} {fault : Fault}
      (unread : Effect.readMutate v = .error fault) :
      Effect.Flawed (@Value.mapping mark [(.text "mutate", v)])
  | goTo {mark : Option Nat} {v : Value} {fault : Fault}
      (unread : Effect.readGoTo v = .error fault) :
      Effect.Flawed (@Value.mapping mark [(.text "go_to", v)])
  | trigger {mark : Option Nat} {v : Value} (name : ∀ s, v ≠ .text s) :
      Effect.Flawed (@Value.mapping mark [(.text "trigger", v)])
  | call {mark : Option Nat} {v : Value} (name : ∀ s, v ≠ .text s) :
      Effect.Flawed (@Value.mapping mark [(.text "call", v)])
  | noList {mark : Option Nat} {v : Value} (given : v.isTruthy = true)
      (list : ∀ mark items, v ≠ @Value.list mark items) :
      Effect.Flawed (@Value.mapping mark [(.text "options", v)])
  | option {mark inner : Option Nat} {items : List Value} {v : Value} (member : v ∈ items)
      (flawed : Choice.Flawed v) :
      Effect.Flawed (@Value.mapping mark [(.text "options", @Value.list inner items)])
  | refresh {mark : Option Nat} {v : Value} {fault : Fault}
      (unread : Effect.readRefresh v = .error fault) :
      Effect.Flawed (@Value.mapping mark [(.text "show_state", v)])

inductive Choice.Flawed : Value → Prop where
  | shape {v : Value} (mapping : ∀ mark entries, v ≠ @Value.mapping mark entries) : Choice.Flawed v
  | idle {mark : Option Nat} {entries : Entries} (missing : Entries.get? entries "action" = none) :
      Choice.Flawed (@Value.mapping mark entries)
  | text {mark : Option Nat} {entries : Entries}
      (unwritable : (Entries.getD entries "text" "").isWritable = false) :
      Choice.Flawed (@Value.mapping mark entries)
  | action {mark : Option Nat} {entries : Entries} {v : Value}
      (given : Entries.get? entries "action" = some v) (flawed : Action.Flawed v) :
      Choice.Flawed (@Value.mapping mark entries)

end

theorem Text.symbols_ne_nil {s : String} (given : s.isEmpty = false) : Text.symbols s ≠ [] := by
  intro none
  unfold symbols at none
  cases code : s.toList with
  | nil =>
    have empty : s = "" := String.toList_eq_nil_iff.1 code
    rw [empty] at given
    cases given
  | cons c rest =>
    rw [code, decode.eq_def] at none
    dsimp only at none
    split at none
    · split at none <;> cases none
    · cases none

theorem Choice.unread_of_not_list {v : Value} (given : v.isTruthy = true)
    (list : ∀ mark items, v ≠ @Value.list mark items) :
    ∃ fault, Choice.readOffer v = .error fault := by
  cases v with
  | list items => exact absurd rfl (list _ items)
  | text s =>
    have some : Text.symbols s ≠ [] := Text.symbols_ne_nil (by simpa [Value.isTruthy] using given)
    unfold Choice.readOffer
    split
    · contradiction
    · exact ⟨_, rfl⟩
  | mapping entries =>
    cases entries with
    | nil => cases given
    | cons entry rest => exact ⟨_, rfl⟩
  | _ =>
    simp only [Choice.readOffer]
    rw [if_pos given]
    exact ⟨_, rfl⟩

mutual

/-- Whatever is flawed is refused, however deep the flaw lies. -/
theorem Action.Flawed.unread {v : Value} (flawed : Action.Flawed v) :
    ∃ fault, Action.read v = .error fault := by
  match v, flawed with
  | v, .shape name list mapping =>
    cases v with
    | text s => exact absurd rfl (name s)
    | list items => exact absurd rfl (list _ items)
    | mapping entries => exact absurd rfl (mapping _ entries)
    | _ => exact ⟨_, rfl⟩
  | .list items, .effect member flawed =>
    obtain ⟨fault, unread⟩ := flawed.unread
    obtain ⟨first, refused⟩ := exists_mapM_eq_error member unread
    refine ⟨first, ?_⟩
    rw [Action.read, Effect.readAll_eq, refused]
    rfl
  | .mapping entries, .noList given list =>
    rename_i w
    rw [Action.read, Action.readEntries_eq, given]
    cases w with
    | list items => exact absurd rfl (list _ items)
    | _ => exact ⟨_, rfl⟩
  | .mapping entries, .effects given flawed =>
    obtain ⟨fault, unread⟩ := flawed.unread
    refine ⟨fault, ?_⟩
    rw [Action.read, Action.readEntries_eq, given]
    exact unread

theorem Effect.Flawed.unread {v : Value} (flawed : Effect.Flawed v) :
    ∃ fault, Effect.read v = .error fault := by
  match v, flawed with
  | v, .shape single =>
    match v with
    | .mapping [(kind, argument)] => exact absurd rfl (single _ kind argument)
    | .null | .bool _ | .int _ | .float _ | .text _ | .list _ | .mapping []
    | .mapping (_ :: _ :: _) => exact ⟨_, rfl⟩
  | .mapping [(kind, argument)], .kind unknown =>
    unfold Effect.read
    split
    case h_8 => exact ⟨_, rfl⟩
    all_goals exact absurd rfl (unknown _ (by simp [Effect.kinds]))
  | .mapping [(.text "text", argument)], .text unread => exact ⟨_, unread⟩
  | .mapping [(.text "mutate", argument)], .mutate unread => exact ⟨_, unread⟩
  | .mapping [(.text "go_to", argument)], .goTo unread => exact ⟨_, unread⟩
  | .mapping [(.text "show_state", argument)], .refresh unread => exact ⟨_, unread⟩
  | .mapping [(.text "trigger", argument)], .trigger name =>
    cases argument with
    | text s => exact absurd rfl (name s)
    | _ => exact ⟨_, rfl⟩
  | .mapping [(.text "call", argument)], .call name =>
    cases argument with
    | text s => exact absurd rfl (name s)
    | _ => exact ⟨_, rfl⟩
  | .mapping [(.text "options", argument)], .noList given list =>
    obtain ⟨fault, unread⟩ := Choice.unread_of_not_list given list
    refine ⟨fault, ?_⟩
    rw [Effect.read, unread]
    rfl
  | .mapping [(.text "options", .list items)], .option member flawed =>
    obtain ⟨fault, unread⟩ := flawed.unread
    obtain ⟨first, refused⟩ := exists_mapM_eq_error member unread
    refine ⟨first, ?_⟩
    rw [Effect.read, Choice.readOffer, Choice.readAll_eq, refused]
    rfl

theorem Choice.Flawed.unread {v : Value} (flawed : Choice.Flawed v) :
    ∃ fault, Choice.read v = .error fault := by
  match v, flawed with
  | v, .shape mapping =>
    cases v with
    | mapping entries => exact absurd rfl (mapping _ entries)
    | _ => exact ⟨_, rfl⟩
  | .mapping entries, .idle missing =>
    rw [Choice.read, Choice.readAction?_eq, missing]
    exact ⟨_, rfl⟩
  | .mapping entries, .text unwritable =>
    rw [Choice.read, Choice.readAction?_eq]
    cases Entries.get? entries "action" with
    | none => exact ⟨_, rfl⟩
    | some v =>
      refine ⟨.badNumeral, ?_⟩
      simp only [Option.map_some, Value.toText, unwritable]
      rfl
  | .mapping entries, .action given flawed =>
    obtain ⟨fault, unread⟩ := flawed.unread
    rw [Choice.read, Choice.readAction?_eq, given]
    simp only [Option.map_some, unread]
    cases (Entries.getD entries "text" "").toText with
    | error first => exact ⟨first, rfl⟩
    | ok text => exact ⟨fault, rfl⟩

end

end Gamebook
