import Gamebook.Proofs.Play.Safety
import Gamebook.Proofs.Script.Wording
import Gamebook.Proofs.Session.Run

/-! What playing a script can run into.

A player starts a session and chooses among what is offered. With a script whose wording is in order,
and with the built-in routines, nothing goes wrong but that an id or a key is not known, or that a
number has too many digits to be written.
-/

set_option autoImplicit false

namespace Gamebook

open Play

theorem CostPolicy.forward_of_ofConfig {travel : TravelConfig} {cost : CostPolicy}
    (named : ofConfig travel = .ok cost) (days : 0 ≤ travel.days) {departure : Site}
    (far : ∀ exit ∈ departure.exits, 1 ≤ exit.distance) (arrival : Site) :
    0 ≤ (cost departure arrival).days := by
  unfold ofConfig at named
  split at named
  · cases named
    exact days
  · split at named
    · cases named
      unfold distance
      -- no exit is shorter than one step, and where none leads there one step is counted
      have steps : 0 ≤ ((departure.exitTo? (.text arrival.id)).map (·.distance)).getD 1 := by
        cases found : departure.exitTo? (.text arrival.id) with
        | none => decide
        | some exit =>
          have positive := far exit (List.mem_of_find?_eq_some found)
          simp only [Option.map_some, Option.getD_some]
          omega
      exact Int.mul_nonneg steps days
    · cases named

/-- What may still go wrong, as it is reported: one of four faults of the script, or a number of too
many digits. Such a number is in a key that is not known, in the state, or in the change that has
just been made. -/
def Fault.IsLeft (fault : Fault) (g : Game) : Prop :=
  (∃ id, fault.reported = .unknownSite id) ∨ (∃ id, fault.reported = .unknownEvent id) ∨
    (∃ name, fault.reported = .unknownAction name) ∨ (∃ key, fault.reported = .invalidKey key) ∨
    fault.reported = .badNumeral ∧
      ((∃ key, fault = .invalidKey key ∧ key.isWritable = false) ∨ g.state.isWritable = false ∨
        ∃ m, g.history.getLast? = some (.mutated m) ∧ m.isWritable = false)

theorem Excused.isLeft {g : Game} {fault : Fault} (excused : Excused g fault) : fault.IsLeft g := by
  cases excused with
  | site id => exact .inl ⟨.text id, rfl⟩
  | event id => exact .inr (.inl ⟨.text id, rfl⟩)
  | action name => exact .inr (.inr (.inl ⟨name, rfl⟩))
  | key key =>
    -- the key stands in the message, so it must be written
    cases writable : key.isWritable with
    | true => exact .inr (.inr (.inr (.inl ⟨key, by simp [Fault.reported, Fault.quoted, writable]⟩)))
    | false =>
      have reported : (Fault.invalidKey key).reported = .badNumeral := by
        simp [Fault.reported, Fault.quoted, writable]
      exact .inr (.inr (.inr (.inr ⟨reported, .inl ⟨key, rfl, writable⟩⟩)))
  | state unwritable => exact .inr (.inr (.inr (.inr ⟨rfl, .inr (.inl unwritable)⟩)))
  | change last unwritable =>
    exact .inr (.inr (.inr (.inr ⟨rfl, .inr (.inr ⟨_, last, unwritable⟩)⟩)))

/-- Whether an operation starts the session, or chooses one of the options of a panel. -/
def Operation.isMove (o : Operation) (panel : List Choice) : Bool :=
  match o.command with
  | .start => true
  | .choose index => 0 ≤ index && index < panel.length
  | _ => false

namespace Setting

variable {s : Setting}

/-- Whether each operation is a move of a player, on what the ones before it leave. -/
def plays (s : Setting) (w : World) : List Operation → Bool
  | [] => true
  | o :: rest => o.isMove w.game.panel && s.plays (o.outcome s w).2 rest

theorem safe_move (playable : s.Playable) {o : Operation} {w : World}
    (move : o.isMove w.game.panel = true) : Heeds Safe (within s o.depth o.command) w := by
  have performed (action : Action) (own : action.Playable) := Safe.dispatch playable o.depth own
  obtain ⟨command, depth⟩ := o
  cases command with
  | start => exact Safe.run playable performed .start w
  | choose index =>
    obtain ⟨positive, offered⟩ := Bool.and_eq_true_iff.1 move
    obtain ⟨n, rfl⟩ := Int.eq_ofNat_of_zero_le (of_decide_eq_true positive)
    have within : n < w.game.panel.length := by
      have := of_decide_eq_true offered
      omega
    exact Safe.composes.bind (Safe.choose performed within) fun _ v _ => Safe.composes.pure _ v
  | _ => cases move

theorem plays_append {w : World} {operations : List Operation} {o : Operation}
    (plays : s.plays w (operations ++ [o]) = true) :
    s.plays w operations = true ∧ o.isMove (s.after w operations).game.panel = true := by
  induction operations generalizing w with
  | nil =>
    obtain ⟨move, -⟩ := Bool.and_eq_true_iff.1 plays
    exact ⟨rfl, move⟩
  | cons first rest ih =>
    obtain ⟨move, plays⟩ := Bool.and_eq_true_iff.1 plays
    obtain ⟨others, last⟩ := ih plays
    exact ⟨Bool.and_eq_true_iff.2 ⟨move, others⟩, last⟩

theorem playable_after (playable : s.Playable) {w : World} (own : w.Playable)
    {operations : List Operation} (plays : s.plays w operations = true) :
    (s.after w operations).Playable := by
  induction operations generalizing w with
  | nil => exact own
  | cons o rest ih =>
    obtain ⟨move, plays⟩ := Bool.and_eq_true_iff.1 plays
    -- what a move leaves is playable even if the move has stopped
    have left := (safe_move playable move own).1
    exact ih left plays

theorem playable_newWorld (dice : Dice) : (s.newWorld Routine.builtin dice).Playable where
  registry := Registry.playable_builtin
  panel := by
    intro choice member
    cases member

theorem exists_of {script : Script} {registry : Registry Routine} {config : Config}
    (entry : (script.findSite? script.entry.site).isSome = true)
    (policy : config.travel.policy = "flat" ∨ config.travel.policy = "distance") :
    ∃ s, Setting.of (.of script registry) config none = .ok s := by
  obtain ⟨site, found⟩ := Option.isSome_iff_exists.1 entry
  have named : ∃ cost, CostPolicy.ofConfig config.travel = .ok cost := by
    unfold CostPolicy.ofConfig
    rcases policy with flat | distance
    · exact ⟨_, if_pos flat⟩
    · rw [if_pos distance]
      split <;> exact ⟨_, rfl⟩
  obtain ⟨cost, named⟩ := named
  unfold Setting.of Script.entrySite Source.of
  dsimp only
  rw [found, named]
  exact ⟨_, rfl⟩

theorem playable_of {script : Script} {registry : Registry Routine} {config : Config} {s : Setting}
    (ready : Setting.of (.of script registry) config none = .ok s) (playable : script.Playable)
    (days : 0 ≤ config.travel.days) : s.Playable := by
  obtain ⟨own, -, -, -, given | ⟨-, named⟩⟩ := of_eq_ok ready
  · cases given
  · change s.script = script at own
    rw [← own] at playable
    refine ⟨playable, fun departure listed arrival => ?_⟩
    exact CostPolicy.forward_of_ofConfig named days
      (fun exit member => ((playable.sites departure listed).exits exit member).distance) arrival

/-- A script that can be read, whose entry exists, whose wording is in order and whose weights have
finite sums is played soundly, under each of the travel policies: whatever a player has done, and
wherever it has stopped, the next move ends well or runs into one of the faults that are left. -/
theorem sound {data : Value} {script : Script} {config : Config}
    (read : Script.read data = .ok script)
    (entry : (script.findSite? script.entry.site).isSome = true)
    (worded : script.isWorded = true)
    (weights : ∀ site ∈ script.sites, site.hasFiniteWeights = true)
    (policy : config.travel.policy = "flat" ∨ config.travel.policy = "distance")
    (days : 0 ≤ config.travel.days) :
    ∃ s, Setting.of (.of script Routine.builtin) config none = .ok s ∧
      ∀ dice operations o, s.plays (s.newWorld Routine.builtin dice) (operations ++ [o]) = true →
        let next := o.outcome s (s.after (s.newWorld Routine.builtin dice) operations)
        ∀ fault, stop? next.1 = some (.fault fault) → fault.IsLeft next.2.game := by
  obtain ⟨s, ready⟩ : ∃ s, Setting.of (.of script Routine.builtin) config none = .ok s :=
    exists_of entry policy
  have playable : s.Playable := playable_of ready (Script.playable_of_read read worded weights) days
  refine ⟨s, ready, ?_⟩
  intro dice operations o plays next fault stopped
  obtain ⟨before, move⟩ := plays_append plays
  have own := playable_after playable (playable_newWorld dice) before
  have excused : Excused next.2.game fault := (safe_move playable move own).2 fault stopped
  exact excused.isLeft

end Setting

/-- A script with an exit that leads nowhere, and one whose action has a key of too many digits. -/
def Script.tollData : Value :=
  .ofEntries [
    ("sites", .ofList [.ofEntries [("id", "ford"), ("ports", .ofList [
      .ofEntries [("target", "nowhere")],
      .ofEntries [("action", .ofList [.ofEntries [("mutate", .ofEntries [
        ("key", .int Text.numeralBound), ("delta", .int 1)])]])]])]]),
    ("entry", .ofEntries [("site", "ford")])]

def Script.toll : Script where
  sites := [
    { id := "ford", name := "ford"
      exits := [
        { target := "nowhere" },
        { action := some (.scripted [.mutate (.int Text.numeralBound) 1 .null]) }] }]
  events := []
  entry := { site := "ford" }

def Setting.toll : Setting where
  script := .toll
  cost := .flat 1 10

def World.toll : World :=
  Setting.toll.newWorld Routine.builtin (.ofList [])

namespace Setting

theorem sound_toll :
    let leave : Operation := { command := .choose 0 }
    let next := leave.outcome toll (toll.after .toll [{ command := .start }])
    Script.read Script.tollData = .ok .toll ∧
      (Script.toll.findSite? Script.toll.entry.site).isSome = true ∧ Script.toll.isWorded = true ∧
      (∀ site ∈ Script.toll.sites, site.hasFiniteWeights = true) ∧
      ({} : Config).travel.policy = "flat" ∧ 0 ≤ ({} : Config).travel.days ∧
      toll.plays .toll ([{ command := .start }] ++ [leave]) = true ∧
      ∃ fault, stop? next.1 = some (.fault fault) ∧ fault.IsLeft next.2.game := by
  intro leave
  have read : Script.read Script.tollData = .ok .toll := rfl
  have entry : (Script.toll.findSite? Script.toll.entry.site).isSome = true := by decide
  have worded : Script.toll.isWorded = true := by decide +kernel
  have weights : ∀ site ∈ Script.toll.sites, site.hasFiniteWeights = true := by decide +kernel
  have policy : ({} : Config).travel.policy = "flat" := rfl
  have days : 0 ≤ ({} : Config).travel.days := by decide
  have plays : toll.plays .toll ([{ command := .start }] ++ [leave]) = true := by decide +kernel
  have stopped : stop? (leave.outcome toll (toll.after .toll [{ command := .start }])).1 =
      some (.fault (.unknownSite "nowhere")) := rfl
  obtain ⟨s, ready, moves⟩ := sound read entry worded weights (.inl policy) days
  have same : s = toll := by
    have own : Setting.of (.of .toll Routine.builtin) {} none = .ok toll := rfl
    exact Except.ok.inj (ready.symm.trans own)
  rw [same] at moves
  exact ⟨read, entry, worded, weights, policy, days, plays, _, stopped,
    moves (.ofList []) [{ command := .start }] leave plays _ stopped⟩

/-- A key of too many digits is not told as a key that is not known: what is reported then is no
fault of the script. -/
theorem unwritable_key :
    let pay : Operation := { command := .choose 1 }
    Script.read Script.tollData = .ok .toll ∧ Script.toll.isWorded = true ∧
      (∀ site ∈ Script.toll.sites, site.hasFiniteWeights = true) ∧
      Setting.of (.of .toll Routine.builtin) {} none = .ok toll ∧
      toll.plays .toll ([{ command := .start }] ++ [pay]) = true ∧
      ∃ fault, stop? (pay.outcome toll (toll.after .toll [{ command := .start }])).1 =
        some (.fault fault) ∧ fault.reported.scriptName? = none := by
  have worded : Script.toll.isWorded = true := by decide +kernel
  have weights : ∀ site ∈ Script.toll.sites, site.hasFiniteWeights = true := by decide +kernel
  intro pay
  have plays : toll.plays .toll ([{ command := .start }] ++ [pay]) = true := by decide +kernel
  exact ⟨rfl, worded, weights, rfl, plays, .invalidKey (.int Text.numeralBound), rfl, by decide +kernel⟩

end Setting

end Gamebook
