import Gamebook.Proofs.Play.Sequence
import Gamebook.Proofs.Session.Refusal

/-! The amounts that scripts add.

A scripted change and a change asked for by a host add the same where the amount is a whole number. What is
no whole number a host is always refused. A script is refused it when it is read, unless it can be taken
for a whole number: a truth value, a numeral, a number with something after the point. Then the script
adds what it was taken for.
-/

set_option autoImplicit false

namespace Gamebook

/-- What is no whole number, and can be taken for one. -/
def Value.isRounded : Value → Bool
  | .bool _ => true
  | .text s => (Text.readInt? s).isSome
  | .float x => (Binary.ofFloat? x).any fun b => !b.isWhole
  | _ => false

theorem State.readDelta_eq_ok {delta : Value} (whole : delta.isWhole = true) :
    ∃ n, State.readDelta delta = .ok n ∧ delta.toInt = .ok n := by
  cases delta with
  | int n => exact ⟨n, rfl, rfl⟩
  | float x =>
    obtain ⟨n, read⟩ := Option.isSome_iff_exists.1 whole
    obtain ⟨b, finite, exact⟩ := Option.bind_eq_some_iff.1 read
    unfold Binary.toInt? at exact
    split at exact
    · cases exact
      refine ⟨b.truncate, ?_, ?_⟩
      · simp only [State.readDelta, read]
      · simp only [Value.toInt, finite]
    · cases exact
  | _ => cases whole

/-- A value is read as a whole number if it is one, and else if it can be taken for one. -/
theorem Value.toInt_isOk_iff {v : Value} (other : v.isWhole = false) :
    (∃ n, v.toInt = .ok n) ↔ v.isRounded = true := by
  cases v with
  | int n => cases other
  | bool b => simp [toInt, isRounded]
  | float x =>
    simp only [toInt, isRounded]
    simp only [isWhole] at other
    cases finite : Binary.ofFloat? x with
    | none => simp
    | some b =>
      rw [finite] at other
      simpa [Binary.toInt?] using other
  | text s =>
    simp only [toInt, isRounded]
    cases Text.readInt? s <;> simp
  | _ => simp [toInt, isRounded]

theorem Game.mutate_whole (g : Game) (key reason : Value) {delta : Value} {n : Int}
    (read : State.readDelta delta = .ok n) :
    g.mutate key delta reason = g.mutate key (.int n) reason := by
  unfold mutate State.mutate
  rw [read]
  rfl

theorem Game.mutate_not_whole (g : Game) (key reason : Value) {delta : Value}
    (other : delta.isWhole = false) : ∃ fault, g.mutate key delta reason = .error fault := by
  unfold mutate State.mutate
  rw [State.readDelta_of_not_isWhole other]
  cases Counter.read key with
  | error fault => exact ⟨fault, rfl⟩
  | ok counter => exact ⟨.fractionalDelta delta, rfl⟩

theorem Action.read_mutate {outer mark inner : Option Nat} {entries : Entries} {key delta : Value}
    (named : Entries.get? entries "key" = some key)
    (given : Entries.get? entries "delta" = some delta) :
    Action.read (@Value.list outer
        [@Value.mapping mark [(.text "mutate", @Value.mapping inner entries)]]) =
      delta.toInt.map fun n =>
        .scripted [.mutate key n (Entries.getD entries "reason" .null)] := by
  have read : Effect.read (@Value.mapping mark [(.text "mutate", @Value.mapping inner entries)]) =
      delta.toInt.map fun n => .mutate key n (Entries.getD entries "reason" .null) := by
    change Effect.readMutate (@Value.mapping inner entries) = _
    simp only [Effect.readMutate, named, given]
    cases delta.toInt <;> rfl
  rw [Action.read, Effect.readAll, read]
  cases delta.toInt <;> rfl

namespace Play

variable {s : Setting} {w : World}

theorem outcome_perform_mutate (depth : Nat) (key reason : Value) (n : Int) :
    outcome (within s (depth + 1) (.perform (.scripted [.mutate key n reason]))) w =
      outcome (within s (depth + 1) (.mutate key (.int n) reason)) w := by
  change outcome (dispatch s (depth + 1) (.scripted [.mutate key n reason]) >>= _) w = _
  rw [dispatch, applyEffects_one]
  rfl

theorem outcome_dispatch_read {data : Value} {action : Action} (read : Action.read data = .ok action)
    (depth : Nat) :
    outcome (within s depth (.dispatch data)) w = outcome (within s depth (.perform action)) w := by
  change outcome (liftFault (Action.read data) >>= fun action => do
    dispatch s depth action
    return Gamebook.Reply.nothing) w = _
  rw [read, liftFault_ok, pure_bind]
  rfl

/-- An amount that is a whole number: what a script does with it, once it has been read, is what the host
does, in all that a session is. Any other amount the host is refused, and nothing changes. The script is
refused it when it is read, unless it can be taken for a whole number; then the script does what the host
does with this number. -/
theorem scripted_amounts (s : Setting) (w : World) (depth : Nat) {outer mark inner : Option Nat}
    {entries : Entries} {key delta : Value} (named : Entries.get? entries "key" = some key)
    (given : Entries.get? entries "delta" = some delta) :
    let reason := Entries.getD entries "reason" .null
    let data :=
      @Value.list outer [@Value.mapping mark [(.text "mutate", @Value.mapping inner entries)]]
    let scripted := outcome (within s (depth + 1) (.dispatch data)) w
    let hosted amount := outcome (within s (depth + 1) (.mutate key amount reason)) w
    let performs amount := ∃ action, Action.read data = .ok action ∧
      outcome (within s (depth + 1) (.perform action)) w = hosted amount ∧ scripted = hosted amount
    (delta.isWhole = true → performs delta) ∧
      (delta.isWhole = false → ∃ fault, hosted delta = (.error (.fault fault), w)) ∧
      (delta.isWhole = false → delta.isRounded = false →
        ∃ fault, delta.toInt = .error fault ∧ Action.read data = .error fault ∧
          scripted = (.error (.fault fault), w)) ∧
      (delta.isWhole = false → delta.isRounded = true →
        ∃ n, delta.toInt = .ok n ∧ performs (.int n)) := by
  intro reason data scripted hosted performs
  have reads : Action.read data = delta.toInt.map fun n => .scripted [.mutate key n reason] :=
    Action.read_mutate named given
  have taken : ∀ n, delta.toInt = .ok n → performs (.int n) := by
    intro n whole
    rw [whole] at reads
    have done := outcome_perform_mutate (s := s) (w := w) depth key reason n
    exact ⟨_, reads, done, (outcome_dispatch_read reads (depth + 1)).trans done⟩
  refine ⟨fun whole => ?_, fun other => ?_, fun other unread => ?_, fun other rounded => ?_⟩
  · obtain ⟨n, read, whole⟩ := State.readDelta_eq_ok whole
    have same : hosted delta = hosted (.int n) := by
      have changed := w.game.mutate_whole key reason read
      change outcome (mutate s key delta reason >>= _) w = outcome (mutate s key (.int n) reason >>= _) w
      rw [outcome_bind, outcome_mutate, changed, outcome_bind, outcome_mutate]
    change ∃ action, _ ∧ _ = hosted delta ∧ _ = hosted delta
    rw [same]
    exact taken n whole
  · obtain ⟨fault, refused⟩ := w.game.mutate_not_whole key reason other
    exact ⟨fault, (Refused.mutate refused).bind _⟩
  · cases number : delta.toInt with
    | ok n =>
      have rounded := (Value.toInt_isOk_iff other).1 ⟨n, number⟩
      rw [unread] at rounded
      cases rounded
    | error fault =>
      rw [number] at reads
      exact ⟨fault, rfl, reads, (Refused.liftFault reads).bind _⟩
  · obtain ⟨n, number⟩ := (Value.toInt_isOk_iff other).2 rounded
    exact ⟨n, number, taken n number⟩

theorem scripted_amounts_fraction :
    let s := Setting.twoTowns
    let w := World.twoTowns
    let delta : Value := .float 2.5
    let data := Value.ofList [.ofEntries [
      (.text "mutate", .ofEntries [(.text "key", .text "hp"), (.text "delta", delta)])]]
    let scripted := outcome (within s 1 (.dispatch data)) w
    delta.isWhole = false ∧ delta.isRounded = true ∧
      (∃ fault, outcome (within s 1 (.mutate "hp" delta .null)) w = (.error (.fault fault), w)) ∧
      scripted = outcome (within s 1 (.mutate "hp" (.int 2) .null)) w ∧
      scripted.2.game.state.status.hp = w.game.state.status.hp + 2 := by
  intro s w delta data scripted
  have other : delta.isWhole = false := by decide +kernel
  have rounded : delta.isRounded = true := by decide +kernel
  have raised : scripted.2.game.state.status.hp = w.game.state.status.hp + 2 := by decide +kernel
  obtain ⟨-, refused, -, taken⟩ := @scripted_amounts s w 0 none none none
    [(.text "key", .text "hp"), (.text "delta", delta)] _ _ rfl rfl
  obtain ⟨n, number, action, -, -, same⟩ := taken other rounded
  have two : n = 2 := by
    have known : delta.toInt = .ok 2 := rfl
    rw [known] at number
    exact (Except.ok.inj number).symm
  rw [two] at same
  exact ⟨other, rounded, refused other, same, raised⟩

end Play

end Gamebook
