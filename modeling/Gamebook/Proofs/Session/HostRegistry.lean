import Gamebook.Proofs.Registry.History
import Gamebook.Proofs.Session.Isolation
import Gamebook.Proofs.Session.Refusal

/-! Whose names a script knows.

A script that is given a registry with something in it looks its names up there, whenever it comes upon
them, so it sees what is registered later. A registry that holds nothing as yet is not kept: whatever is
registered in it later, the script knows no name at all.
-/

set_option autoImplicit false

namespace Gamebook

open Play

namespace Setting

variable {s : Setting} {w : World} {name : String}

theorem knowsRegistry_of {data : Value} {host : Registry Routine} {source : Source} {config : Config}
    {cost : Option CostPolicy} (read : Source.read data host = .ok source)
    (ready : Setting.of source config cost = .ok s) : s.knowsRegistry = !host.isEmpty := by
  obtain ⟨script, -, rfl⟩ := map_eq_ok read
  obtain ⟨-, -, knows, -⟩ := of_eq_ok ready
  exact knows

theorem outcome_within_dispatch {routine : Routine} (knows : s.knowsRegistry = true)
    (found : w.registry.get? name = some routine) (depth : Nat) :
    outcome (within s (depth + 1) (.dispatch (.text name))) w =
      outcome (within s (depth + 1) (.perform (.direct routine))) w := by
  have looked : outcome (known s name) w = (.ok routine, w) := by
    rw [outcome_known, if_pos knows, found]
    rfl
  have same : outcome (dispatch s (depth + 1) (.named name)) w =
      outcome (dispatch s (depth + 1) (.direct routine)) w := by
    change outcome (known s name >>= follow s (dispatch s depth)) w = _
    rw [outcome_bind, looked]
    rfl
  change outcome (dispatch s (depth + 1) (.named name) >>= _) w =
    outcome (dispatch s (depth + 1) (.direct routine) >>= _) w
  rw [outcome_bind, outcome_bind, same]

/-- Nothing but registrations happens to the registry that a session shares. -/
theorem exists_registerAll (w : World) (operations : List Operation) :
    ∃ more, (s.after w operations).registry = w.registry.registerAll more := by
  obtain ⟨gained, writes⟩ := s.writes_suffix w operations
  refine ⟨gained.reverse, ?_⟩
  have same : (s.after w operations).registry.writes = (w.registry.registerAll gained.reverse).writes := by
    rw [Registry.writes_registerAll, List.reverse_reverse, writes]
  exact congrArg Registry.mk same

/-- A script that was given a registry with something in it knows the names that are registered there, be
it before or later: what is dispatched by name is what the name stands for by then, and it is refused just
where there is nothing of this name. A script that was given a registry without anything in it refuses
every name, even one that has been registered there since. -/
theorem names_follow_host {data : Value} {host : Registry Routine} {source : Source} {config : Config}
    {cost : Option CostPolicy} {s : Setting} (read : Source.read data host = .ok source)
    (ready : Setting.of source config cost = .ok s) (later : List (String × Routine)) (game : Game)
    (depth : Nat) (name : String) :
    let w : World := ⟨host.registerAll later, game⟩
    let dispatched := outcome (within s (depth + 1) (.dispatch (.text name))) w
    w.registry.get? name = (later.reverse.lookup name).or (host.get? name) ∧
      (∀ operations, ∃ more, (s.after w operations).registry = host.registerAll (later ++ more)) ∧
      (host.isEmpty = false →
        (∀ routine, w.registry.get? name = some routine →
          dispatched = outcome (within s (depth + 1) (.perform (.direct routine))) w) ∧
        (w.registry.contains name = false → dispatched = (.error (.fault (.unknownAction name)), w)) ∧
        (outcome (known s name) w = (.error (.fault (.unknownAction name)), w) ↔
          w.registry.contains name = false)) ∧
      (host.isEmpty = true → dispatched = (.error (.fault (.unknownAction name)), w)) := by
  intro w dispatched
  have knows := knowsRegistry_of read ready
  have absent (unknown : s.knowsRegistry = true → w.registry.get? name = none) :
      dispatched = (.error (.fault (.unknownAction name)), w) :=
    (Refused.dispatch unknown depth).bind _
  refine ⟨Registry.get?_registerAll host later name, fun operations => ?_, fun given => ?_, fun none => ?_⟩
  · obtain ⟨more, grown⟩ := s.exists_registerAll w operations
    refine ⟨more, grown.trans ?_⟩
    exact List.foldl_append.symm
  · rw [given, Bool.not_false] at knows
    refine ⟨fun routine found => outcome_within_dispatch knows found depth, fun missing => ?_, ?_⟩
    · exact absent fun _ => Option.isNone_iff_eq_none.1 (Option.isSome_eq_false_iff.1 missing)
    · rw [outcome_known, if_pos knows, Registry.contains]
      cases w.registry.get? name with
      | none => exact iff_of_true rfl rfl
      | some routine => exact iff_of_false (fun failed => by cases failed) fun missing => by cases missing
  · rw [none, Bool.not_true] at knows
    exact absent fun kept => absurd (knows.symm.trans kept) Bool.false_ne_true

end Setting

def Value.ford : Value :=
  .ofEntries [
    ("entry", .ofEntries [("site", "ford")]),
    ("sites", .ofList [.ofEntries [("id", "ford")]])]

theorem Setting.names_follow_host_ford :
    let wave := Routine.ofList [.say "A wave." []]
    let early (host : Registry Routine) := Source.read .ford host
    let ready (host : Registry Routine) := early host >>= fun source => Setting.of source {} none
    let said (host : Registry Routine) (s : Setting) : Except Stop Play.Reply × World :=
      outcome (within s 1 (.dispatch "wave")) ⟨host.register "wave" wave, s.newGame (.ofList [])⟩
    (ready Routine.builtin).isOk = true ∧ (ready .empty).isOk = true ∧
      (∀ s, ready Routine.builtin = .ok s →
        said Routine.builtin s =
          outcome (within s 1 (.perform (.direct wave)))
            ⟨Routine.builtin.register "wave" wave, s.newGame (.ofList [])⟩) ∧
      ∀ s, ready .empty = .ok s →
        (Registry.empty.register "wave" wave).contains "wave" = true ∧
          (said .empty s).1 = .error (.fault (.unknownAction "wave")) := by
  intro wave early ready said
  refine ⟨by decide +kernel, by decide +kernel, fun s known => ?_, fun s unknown => ?_⟩
  · obtain ⟨source, read, made⟩ := bind_eq_ok known
    obtain ⟨-, -, follows, -⟩ :=
      names_follow_host read made [("wave", wave)] (s.newGame (.ofList [])) 0 "wave"
    exact (follows rfl).1 wave rfl
  · obtain ⟨source, read, made⟩ := bind_eq_ok unknown
    obtain ⟨-, -, -, refuses⟩ :=
      names_follow_host read made [("wave", wave)] (s.newGame (.ofList [])) 0 "wave"
    exact ⟨rfl, congrArg Prod.fst (refuses rfl)⟩

end Gamebook
