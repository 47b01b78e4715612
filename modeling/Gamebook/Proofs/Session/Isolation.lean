import Gamebook.Proofs.Play.Registration
import Gamebook.Proofs.Session.Run

/-! Sessions side by side.

They share the setting, which nothing changes, and the registry, in which they can register. The main
statement is `Hall.isolation`: what one of them answers and becomes is what its game answers and becomes
by itself, when it is told what the others register.
-/

set_option autoImplicit false

namespace Gamebook

open Play

abbrev Answered := Except Stop Reply × Game

/-- What concerns a session: its own commands, and what is registered for it to see. -/
inductive Deed where
  | own (command : Command)
  | registered (name : String) (routine : Routine)

/-- What a session answers and becomes by itself, while others register. -/
def Setting.solo (s : Setting) (w : World) : List Deed → List Answered
  | [] => []
  | .own command :: rest =>
    let (reply, v) := outcome (step s command) w
    (reply, v.game) :: s.solo v rest
  | .registered name routine :: rest =>
    s.solo { w with registry := w.registry.register name routine } rest

namespace Hall

structure Turn where
  index : Nat
  command : Command

namespace Turn

def deed? (turn : Turn) (index : Nat) : Option Deed :=
  if turn.index = index then some (.own turn.command)
  else
    match turn.command with
    | .register name routine => some (.registered name routine)
    | _ => none

def concerns (turn : Turn) (index : Nat) : Bool :=
  (turn.deed? index).isSome

end Turn

variable (hall : Hall)

/-- The hall after a turn. A session that is not there takes none. -/
def take (turn : Turn) : Hall :=
  ((hall.step turn.index turn.command).map Prod.snd).getD hall

def answer? (turn : Turn) : Option Answered := do
  let (reply, after) ← hall.step turn.index turn.command
  return (reply, ← after.games[turn.index]?)

/-- What one of the sessions answers and becomes, while all of them take their turns. -/
def transcript (hall : Hall) (index : Nat) : List Turn → List Answered
  | [] => []
  | turn :: rest =>
    let later := (hall.take turn).transcript index rest
    if turn.index = index then (hall.answer? turn).toList ++ later else later

def registered (turn : Turn) : List (String × Routine) :=
  let writes := (hall.take turn).registry.writes
  (writes.take (writes.length - hall.registry.writes.length)).reverse

def deeds (hall : Hall) (index : Nat) : List Turn → List Deed
  | [] => []
  | turn :: rest =>
    let later := (hall.take turn).deeds index rest
    if turn.index = index then .own turn.command :: later
    else (hall.registered turn).map (fun (name, routine) => .registered name routine) ++ later

/-- Nobody but the session registers anything, unless by a step that does just this. -/
def Apart (hall : Hall) (index : Nat) : List Turn → Prop
  | [] => True
  | turn :: rest =>
    (turn.concerns index = false → (hall.take turn).registry = hall.registry) ∧
      (hall.take turn).Apart index rest

section

variable {hall : Hall} {index : Nat} {game : Game}

theorem take_of_present {turn : Turn} (there : hall.games[turn.index]? = some game) :
    hall.take turn =
      let world := (outcome (Play.step hall.setting turn.command) ⟨hall.registry, game⟩).2
      { hall with registry := world.registry, games := hall.games.set turn.index world.game } := by
  unfold take Hall.step
  rw [there]
  rfl

theorem take_of_absent {turn : Turn} (absent : hall.games[turn.index]? = none) :
    hall.take turn = hall := by
  unfold take Hall.step
  rw [absent]
  rfl

theorem answer?_of_present {turn : Turn} (there : hall.games[turn.index]? = some game) :
    hall.answer? turn =
      let (reply, world) := outcome (Play.step hall.setting turn.command) ⟨hall.registry, game⟩
      some (reply, world.game) := by
  obtain ⟨inside, -⟩ := List.getElem?_eq_some_iff.1 there
  unfold answer? Hall.step
  rw [there]
  simp [inside]

@[simp] theorem setting_take (hall : Hall) (turn : Turn) :
    (hall.take turn).setting = hall.setting := by
  cases there : hall.games[turn.index]? with
  | none => rw [take_of_absent there]
  | some game => rw [take_of_present there]

@[simp] theorem length_games_take (hall : Hall) (turn : Turn) :
    (hall.take turn).games.length = hall.games.length := by
  cases there : hall.games[turn.index]? with
  | none => rw [take_of_absent there]
  | some game =>
    rw [take_of_present there]
    exact List.length_set

theorem games_take_of_ne {turn : Turn} (apart : turn.index ≠ index) :
    (hall.take turn).games[index]? = hall.games[index]? := by
  cases there : hall.games[turn.index]? with
  | none => rw [take_of_absent there]
  | some game =>
    rw [take_of_present there]
    exact List.getElem?_set_ne apart

theorem games_take_self {turn : Turn} (there : hall.games[turn.index]? = some game) :
    (hall.take turn).games[turn.index]? =
      some (outcome (Play.step hall.setting turn.command) ⟨hall.registry, game⟩).2.game := by
  obtain ⟨inside, -⟩ := List.getElem?_eq_some_iff.1 there
  rw [take_of_present there]
  exact List.getElem?_set_self inside

theorem writes_take (hall : Hall) (turn : Turn) :
    (hall.take turn).registry.writes = (hall.registered turn).reverse ++ hall.registry.writes := by
  have kept : hall.registry.writes <:+ (hall.take turn).registry.writes := by
    cases there : hall.games[turn.index]? with
    | none => simp only [take_of_absent there, List.suffix_rfl]
    | some game =>
      rw [take_of_present there]
      exact (KeepsWrites.law hall.setting).within maxDepth turn.command ⟨hall.registry, game⟩
  obtain ⟨gained, writes⟩ := kept
  unfold registered
  dsimp only
  rw [← writes, List.length_append, Nat.add_sub_cancel, List.take_left, List.reverse_reverse]

end

end Hall

theorem Setting.solo_registered (s : Setting) (w : World) (entries : List (String × Routine))
    (rest : List Deed) :
    s.solo w (entries.map (fun (name, routine) => .registered name routine) ++ rest) =
      s.solo { w with registry := ⟨entries.reverse ++ w.registry.writes⟩ } rest := by
  induction entries generalizing w with
  | nil => rfl
  | cons entry entries ih =>
    obtain ⟨name, routine⟩ := entry
    simp only [List.map_cons, List.cons_append, Setting.solo, ih, Registry.register,
      List.reverse_cons, List.append_assoc, List.nil_append]

namespace Hall

variable {hall : Hall} {index : Nat} {game : Game}

/-- A session's transcript is that of its game by itself. -/
theorem transcript_eq_solo (there : hall.games[index]? = some game) (schedule : List Turn) :
    hall.transcript index schedule =
      hall.setting.solo ⟨hall.registry, game⟩ (hall.deeds index schedule) := by
  induction schedule generalizing hall game with
  | nil => rfl
  | cons turn rest ih =>
    unfold transcript deeds
    by_cases own : turn.index = index
    · subst own
      have later := ih (games_take_self there)
      rw [take_of_present there] at later ⊢
      simp only [if_pos, answer?_of_present there, Setting.solo, Option.toList_some,
        List.singleton_append, later]
    · have later := ih ((games_take_of_ne own).trans there)
      simp only [if_neg own, Setting.solo_registered, later, setting_take, ← writes_take]

theorem registered_of_keeps {turn : Turn} (keeps : (hall.take turn).registry = hall.registry) :
    hall.registered turn = [] := by
  have writes := hall.writes_take turn
  rw [keeps] at writes
  simpa using writes

theorem registered_of_register {turn : Turn} {name : String} {routine : Routine}
    (present : turn.index < hall.games.length) (does : turn.command = .register name routine) :
    hall.registered turn = [(name, routine)] := by
  have writes := hall.writes_take turn
  rw [take_of_present (List.getElem?_eq_getElem present), does] at writes
  have one : [(name, routine)] = (hall.registered turn).reverse := List.append_cancel_right writes
  rw [← List.reverse_reverse (hall.registered turn), ← one]
  rfl

theorem registry_take_eq_iff (hall : Hall) (turn : Turn) :
    (hall.take turn).registry.writes.length = hall.registry.writes.length ↔
      (hall.take turn).registry = hall.registry := by
  constructor
  · intro same
    have writes := hall.writes_take turn
    rw [writes, List.length_append, List.length_reverse, Nat.add_eq_right] at same
    rw [List.length_eq_zero_iff.1 same] at writes
    exact congrArg Registry.mk writes
  · intro same
    rw [same]

-- Routines cannot be compared, but nothing is ever taken back from a registry.
instance (hall : Hall) (turn : Turn) : Decidable ((hall.take turn).registry = hall.registry) :=
  decidable_of_iff _ (hall.registry_take_eq_iff turn)

instance decidableApart (index : Nat) : (hall : Hall) → (schedule : List Turn) →
    Decidable (hall.Apart index schedule)
  | _, [] => isTrue trivial
  | hall, turn :: rest =>
    have := decidableApart index (hall.take turn) rest
    inferInstanceAs (Decidable (_ ∧ _))

theorem registered_of_other {turn : Turn} (other : turn.index ≠ index)
    (present : turn.index < hall.games.length)
    (quiet : turn.concerns index = false → (hall.take turn).registry = hall.registry) :
    (hall.registered turn).map (fun (name, routine) => .registered name routine) =
      (turn.deed? index).toList := by
  cases deed : turn.deed? index with
  | none =>
    have concerns : turn.concerns index = false := by
      rw [Turn.concerns, deed]
      rfl
    rw [registered_of_keeps (quiet concerns)]
    rfl
  | some found =>
    unfold Turn.deed? at deed
    rw [if_neg other] at deed
    split at deed
    · rename_i name routine does
      cases deed
      rw [registered_of_register present does]
      rfl
    · cases deed

/-- Where the others register by steps of their own only, what concerns a session is read off the
turns. -/
theorem deeds_of_apart {schedule : List Turn}
    (present : ∀ turn ∈ schedule, turn.index < hall.games.length) (apart : hall.Apart index schedule) :
    hall.deeds index schedule = schedule.filterMap (·.deed? index) := by
  induction schedule generalizing hall with
  | nil => rfl
  | cons turn rest ih =>
    obtain ⟨quiet, apart⟩ := apart
    have later : (hall.take turn).deeds index rest = rest.filterMap (·.deed? index) := by
      refine ih (fun other member => ?_) apart
      rw [length_games_take]
      exact present other (List.mem_cons_of_mem _ member)
    unfold deeds
    rw [List.filterMap_cons, later]
    by_cases own : turn.index = index
    · simp only [if_pos own, Turn.deed?]
    · have told := registered_of_other own (present turn List.mem_cons_self) quiet
      simp only [if_neg own, told]
      cases turn.deed? index <;> rfl

theorem apart_of_concerns {schedule : List Turn}
    (all : ∀ turn ∈ schedule, turn.concerns index = true) : hall.Apart index schedule := by
  induction schedule generalizing hall with
  | nil => trivial
  | cons turn rest ih =>
    refine ⟨fun other => ?_, ih fun turn member => all turn (List.mem_cons_of_mem _ member)⟩
    rw [all turn List.mem_cons_self] at other
    cases other

theorem transcript_filter (there : hall.games[index]? = some game) {schedule : List Turn}
    (present : ∀ turn ∈ schedule, turn.index < hall.games.length) (apart : hall.Apart index schedule) :
    hall.transcript index schedule =
      hall.transcript index (schedule.filter (·.concerns index)) := by
  have kept : (schedule.filter (·.concerns index)).filterMap (·.deed? index) =
      schedule.filterMap (·.deed? index) := by
    rw [List.filterMap_filter]
    congr 1
    funext turn
    unfold Turn.concerns
    cases turn.deed? index <;> rfl
  rw [transcript_eq_solo there, transcript_eq_solo there, deeds_of_apart present apart,
    deeds_of_apart (fun turn member => present turn (List.mem_filter.1 member).1)
      (apart_of_concerns fun turn member => (List.mem_filter.1 member).2), kept]

/-- What a session answers and becomes depends on its own steps and on what is registered meanwhile:
it is what its game answers and becomes by itself, and any session that begins alike and is concerned
by the same has the same transcript. Where the others register by steps of their own only, all their
other steps can be left out. -/
theorem isolation (there : hall.games[index]? = some game) (schedule : List Turn) :
    hall.transcript index schedule =
        hall.setting.solo ⟨hall.registry, game⟩ (hall.deeds index schedule) ∧
      (∀ (other : Hall) (twin : Nat) (meanwhile : List Turn),
        other.setting = hall.setting → other.registry = hall.registry →
        other.games[twin]? = some game → other.deeds twin meanwhile = hall.deeds index schedule →
        other.transcript twin meanwhile = hall.transcript index schedule) ∧
      ((∀ turn ∈ schedule, turn.index < hall.games.length) → hall.Apart index schedule →
        hall.deeds index schedule = schedule.filterMap (·.deed? index) ∧
          hall.transcript index schedule =
            hall.transcript index (schedule.filter (·.concerns index))) := by
  have alone := transcript_eq_solo there schedule
  refine ⟨alone, ?_, fun present apart => ?_⟩
  · intro other twin meanwhile setting registry begins same
    calc other.transcript twin meanwhile
        = other.setting.solo ⟨other.registry, game⟩ (other.deeds twin meanwhile) :=
          transcript_eq_solo begins meanwhile
      _ = hall.setting.solo ⟨hall.registry, game⟩ (hall.deeds index schedule) := by
          rw [setting, registry, same]
      _ = hall.transcript index schedule := alone.symm
  · exact ⟨deeds_of_apart present apart, transcript_filter there present apart⟩

theorem isolation_twoTowns :
    let pray : Command := .register "pray" (.ofList [.mutate "honor" (.int 1) "prayer"])
    let hall : Hall := ⟨.twoTowns, Routine.builtin, [World.twoTowns.game, World.twoTowns.game]⟩
    let schedule : List Turn :=
      [⟨0, .start⟩, ⟨1, .start⟩, ⟨1, .choose 0⟩, ⟨1, pray⟩, ⟨0, .choose 0⟩, ⟨1, .choose 7⟩,
        ⟨0, .dispatch "pray"⟩]
    let mirrored : List Turn :=
      [⟨1, .start⟩, ⟨0, .dispatch "pray"⟩, ⟨0, pray⟩, ⟨1, .choose 0⟩, ⟨1, .dispatch "pray"⟩,
        ⟨0, .goTo "mill" true⟩]
    (hall.transcript 0 schedule).length = 3 ∧
      hall.transcript 0 schedule =
        hall.transcript 0 [⟨0, .start⟩, ⟨1, pray⟩, ⟨0, .choose 0⟩, ⟨0, .dispatch "pray"⟩] ∧
      hall.transcript 1 mirrored = hall.transcript 0 schedule := by
  intro pray hall schedule mirrored
  have present : ∀ turn ∈ schedule, turn.index < hall.games.length := by decide +kernel
  have inside : ∀ turn ∈ mirrored, turn.index < hall.games.length := by decide +kernel
  have apart : hall.Apart 0 schedule := by decide +kernel
  have quiet : hall.Apart 1 mirrored := by decide +kernel
  have first : hall.games[0]? = some World.twoTowns.game := rfl
  have second : hall.games[1]? = some World.twoTowns.game := rfl
  obtain ⟨-, twins, left⟩ := isolation first schedule
  obtain ⟨deeds, filtered⟩ := left present apart
  obtain ⟨-, -, other⟩ := isolation second mirrored
  have same : hall.deeds 1 mirrored = hall.deeds 0 schedule :=
    (other inside quiet).1.trans deeds.symm
  exact ⟨by decide +kernel, filtered, twins hall 1 mirrored rfl rfl second same⟩

end Hall

end Gamebook
