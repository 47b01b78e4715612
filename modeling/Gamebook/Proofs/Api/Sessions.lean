import Gamebook.Api.Service
import Gamebook.Proofs.Session.Run

/-! What calls leave of the sessions of a service.

A call moves the session that it names onward, if at all, and leaves the others as they are. So every
session that is found has grown from a fresh game, whatever the calls were.
-/

set_option autoImplicit false

namespace Gamebook.Api

namespace Session

def Onward (session after : Session) : Prop :=
  after.setting = session.setting ∧ ∃ between, session.game.Grows between after.game

/-- A session has grown from a fresh game by the history that it tells. -/
def Grown (session : Session) : Prop :=
  ∃ dice, (session.setting.newGame dice).Grows session.game.history session.game

theorem Onward.refl (session : Session) : session.Onward session :=
  ⟨rfl, [], .refl _⟩

theorem Onward.log {session after : Session} (onward : session.Onward after) :
    session.game.screen.log <+: after.game.screen.log := by
  obtain ⟨-, between, grown⟩ := onward
  exact ⟨_, grown.log.symm⟩

theorem grown_fresh (setting : Setting) (dice : Dice) : Grown ⟨setting, setting.newGame dice⟩ :=
  ⟨dice, .refl _⟩

theorem Grown.onward {session after : Session} (grown : session.Grown) (onward : session.Onward after) :
    after.Grown := by
  obtain ⟨dice, early⟩ := grown
  obtain ⟨setting, between, late⟩ := onward
  have whole := early.trans late
  rw [← late.history] at whole
  exact ⟨dice, by rw [setting]; exact whole⟩

/-- However a command ends, it moves the session onward. -/
theorem run_onward (session : Session) (registry : Registry Routine) (command : Command) :
    session.Onward (session.run registry command).2.2 := by
  obtain ⟨between, -, grown⟩ :=
    (Unfolds.law session.setting).within Play.maxDepth command ⟨registry, session.game⟩
  exact ⟨rfl, between, grown⟩

end Session

namespace Service

theorem sessions_of_start {source : Source} {config : Config} {opened : Service}
    (begins : Service.start source config = .ok opened) : opened.sessions = [] := by
  obtain ⟨_, _, made⟩ := bind_eq_ok begins
  cases made
  rfl

variable {s : Service} {id other : String} {session : Session}

theorem find?_setSession (s : Service) (id other : String) (session : Session) :
    (s.setSession id session).find? other =
      if other = id then (s.find? id).map fun _ => session else s.find? other := by
  unfold find? setSession
  dsimp only
  induction s.sessions with
  | nil => simp
  | cons entry rest ih =>
    obtain ⟨name, kept⟩ := entry
    rw [List.map_cons, List.lookup_cons, List.lookup_cons, List.lookup_cons, ih]
    by_cases here : other = name
    · subst here
      by_cases same : other = id
      · subst same
        simp
      · simp [same]
    · have missed : (other == name) = false := beq_eq_false_iff_ne.2 here
      by_cases same : other = id
      · subst same
        simp [missed]
      · simp [missed, same]

theorem find?_remove_self (s : Service) (id : String) : (s.remove id).find? id = none := by
  unfold find? remove
  rw [List.lookup_eq_none_iff]
  intro entry member
  have kept : (entry.1 != id) = true := (List.mem_filter.1 member).2
  rw [bne_comm] at kept
  exact kept

theorem find?_remove_of_ne (s : Service) (apart : other ≠ id) :
    (s.remove id).find? other = s.find? other := by
  unfold find? remove
  dsimp only
  induction s.sessions with
  | nil => rfl
  | cons entry rest ih =>
    obtain ⟨name, kept⟩ := entry
    by_cases gone : name = id
    · subst gone
      have missed : (other == name) = false := beq_eq_false_iff_ne.2 apart
      simp [List.lookup_cons, missed, ih]
    · simp [List.lookup_cons, gone, ih]

theorem choose_of_listed {index : Int} (listed : 0 ≤ index ∧ index < session.game.panel.length) :
    s.choose id index session =
      let (reply, registry, after) := session.run s.registry (.choose index)
      (match reply with
        | .error stop => .error (.ofStop stop)
        | .ok _ => .ok (.screen id (after.game.screen.snapshot session.game.screen.log.length)),
        { s with registry }.setSession id after) := by
  unfold choose
  rw [if_pos listed]
  rcases session.run s.registry (.choose index) with ⟨reply, registry, after⟩
  cases reply with
  | error stop => rfl
  | ok _ => rfl

theorem choose_of_unlisted {index : Int} (unlisted : ¬ (0 ≤ index ∧ index < session.game.panel.length)) :
    s.choose id index session = (.error (.noOption index), s) :=
  if_neg unlisted

theorem perform_create (s : Service) (fresh : Fresh) : s.perform fresh .create = s.create fresh := rfl

theorem within_of_found (found : s.find? id = some session)
    (f : Session → Except Problem Answer × Service) : s.within id f = f session := by
  unfold within
  rw [found]

theorem within_of_missing (missing : s.find? id = none)
    (f : Session → Except Problem Answer × Service) :
    s.within id f = (.error (.unknownSession id), s) := by
  unfold within
  rw [missing]

theorem find?_congr {t : Service} (same : t.sessions = s.sessions) (id : String) :
    t.find? id = s.find? id := by
  unfold find?
  rw [same]

theorem find?_begun {t : Service} {name : String} (more : t.sessions = s.sessions ++ [(name, session)])
    (id : String) : t.find? id = (s.find? id).or (if id = name then some session else none) := by
  unfold find?
  rw [more, List.lookup_append, List.lookup_cons]
  by_cases own : id = name
  · simp [own]
  · simp [own, beq_eq_false_iff_ne.2 own]

def started (s : Service) (chance : Dice) : Except Problem Session :=
  match Setting.of s.source s.config none with
  | .error fault => .error (.fault fault)
  | .ok setting =>
    match Session.run ⟨setting, setting.newGame (setting.dice chance)⟩ s.registry .start with
    | (.error stop, _, _) => .error (.ofStop stop)
    | (.ok _, _, session) => .ok session

theorem create_of_started (s : Service) (fresh : Fresh) :
    (s.create fresh).1 = (s.started fresh.chance).map (fun session =>
        .screen fresh.id (session.game.screen.snapshot 0)) ∧
      (s.create fresh).2.sessions =
        s.sessions ++ ((s.started fresh.chance).toOption.map (fresh.id, ·)).toList := by
  unfold create started
  cases Setting.of s.source s.config none with
  | error fault => exact ⟨rfl, (List.append_nil _).symm⟩
  | ok setting =>
    dsimp only
    rcases Session.run ⟨setting, setting.newGame (setting.dice fresh.chance)⟩ s.registry .start with
      ⟨reply, registry, session⟩
    cases reply with
    | error stop => exact ⟨rfl, (List.append_nil _).symm⟩
    | ok _ => exact ⟨rfl, rfl⟩

theorem onward_of_started {chance : Dice} (begins : s.started chance = .ok session) :
    ∃ setting, Session.Onward ⟨setting, setting.newGame (setting.dice chance)⟩ session := by
  unfold started at begins
  split at begins
  · cases begins
  · rename_i setting _
    have onward := Session.run_onward ⟨setting, setting.newGame (setting.dice chance)⟩ s.registry .start
    split at begins
    · cases begins
    · rename_i run
      cases begins
      rw [run] at onward
      exact ⟨setting, onward⟩

inductive Turns (s : Service) (fresh : Fresh) : Call → Service → Prop where
  | none {call : Call} {t : Service} (same : t.sessions = s.sessions) : Turns s fresh call t
  | begun {t : Service} {setting : Setting} {after : Session}
      (onward : Session.Onward ⟨setting, setting.newGame (setting.dice fresh.chance)⟩ after)
      (more : t.sessions = s.sessions ++ [(fresh.id, after)]) : Turns s fresh .create t
  | moved {t : Service} {id : String} {index : Int} {session after : Session}
      (found : s.find? id = some session) (onward : session.Onward after)
      (changed : t.sessions = (s.setSession id after).sessions) : Turns s fresh (.choose id index) t
  | finished {t : Service} {id : String} (fewer : t.sessions = (s.remove id).sessions) :
      Turns s fresh (.finish id) t

theorem turns_create (s : Service) (fresh : Fresh) : Turns s fresh .create (s.create fresh).2 := by
  obtain ⟨-, sessions⟩ := s.create_of_started fresh
  cases begins : s.started fresh.chance with
  | error problem =>
    rw [begins] at sessions
    exact .none (sessions.trans (List.append_nil _))
  | ok session =>
    rw [begins] at sessions
    obtain ⟨setting, onward⟩ := onward_of_started begins
    exact .begun onward sessions

theorem turns_choose (found : s.find? id = some session) (fresh : Fresh) (index : Int) :
    Turns s fresh (.choose id index) (s.choose id index session).2 := by
  by_cases listed : 0 ≤ index ∧ index < session.game.panel.length
  · rw [choose_of_listed listed]
    exact .moved found (session.run_onward s.registry (.choose index)) rfl
  · rw [choose_of_unlisted listed]
    exact .none rfl

theorem turns_perform (s : Service) (fresh : Fresh) (call : Call) :
    Turns s fresh call (s.perform fresh call).2 := by
  cases call with
  | create => exact s.turns_create fresh
  | view id since =>
    change Turns s fresh _ (s.within id _).2
    cases found : s.find? id with
    | none => rw [within_of_missing found]; exact .none rfl
    | some session => rw [within_of_found found]; exact .none rfl
  | choose id index =>
    change Turns s fresh _ (s.within id _).2
    cases found : s.find? id with
    | none => rw [within_of_missing found]; exact .none rfl
    | some session => rw [within_of_found found]; exact turns_choose found fresh index
  | finish id =>
    change Turns s fresh _ (s.within id _).2
    cases found : s.find? id with
    | none => rw [within_of_missing found]; exact .none rfl
    | some session => rw [within_of_found found]; exact .finished rfl

theorem create_eq_ok {fresh : Fresh} {answer : Answer} {t : Service}
    (done : s.create fresh = (.ok answer, t)) :
    ∃ begun : Session, answer = .screen fresh.id (begun.game.screen.snapshot 0) ∧
      t.sessions = s.sessions ++ [(fresh.id, begun)] := by
  obtain ⟨answered, sessions⟩ := s.create_of_started fresh
  rw [done] at answered sessions
  cases begins : s.started fresh.chance with
  | error problem =>
    rw [begins] at answered
    cases answered
  | ok begun =>
    rw [begins] at answered sessions
    cases answered
    exact ⟨begun, rfl, sessions⟩

/-- A choice that goes well moves its session onward, and shows the log from where it was. -/
theorem choose_eq_ok (found : s.find? id = some session) {index : Int} {answer : Answer} {t : Service}
    (done : s.choose id index session = (.ok answer, t)) :
    ∃ after, session.Onward after ∧ t.find? id = some after ∧
      answer = .screen id (after.game.screen.snapshot session.game.screen.log.length) := by
  by_cases listed : 0 ≤ index ∧ index < session.game.panel.length
  · have onward := session.run_onward s.registry (.choose index)
    rw [choose_of_listed listed] at done
    rcases run : session.run s.registry (.choose index) with ⟨reply, registry, after⟩
    rw [run] at onward done
    cases reply with
    | error stop => cases done
    | ok _ =>
      cases done
      refine ⟨after, onward, ?_, rfl⟩
      rw [find?_setSession, if_pos rfl]
      exact congrArg (Option.map _) found
  · rw [choose_of_unlisted listed] at done
    cases done

theorem find?_perform (found : s.find? id = some session) (fresh : Fresh) {call : Call}
    (lives : call ≠ .finish id) :
    ∃ after, (s.perform fresh call).2.find? id = some after ∧ session.Onward after := by
  cases s.turns_perform fresh call with
  | none same => exact ⟨session, (find?_congr same id).trans found, .refl _⟩
  | begun onward more =>
    refine ⟨session, ?_, .refl _⟩
    rw [find?_begun more, found]
    rfl
  | moved chosen onward changed =>
    rename_i name index before after
    rw [find?_congr changed id, find?_setSession]
    by_cases same : id = name
    · subst same
      cases found.symm.trans chosen
      exact ⟨after, by simp [found], onward⟩
    · exact ⟨session, by simp [same, found], .refl _⟩
  | finished fewer =>
    rename_i name
    have apart : id ≠ name := fun same => lives (by rw [same])
    exact ⟨session, by rw [find?_congr fewer id, find?_remove_of_ne s apart, found], .refl _⟩

theorem grown_perform (grown : ∀ id session, s.find? id = some session → session.Grown)
    (fresh : Fresh) (call : Call) :
    ∀ id session, (s.perform fresh call).2.find? id = some session → session.Grown := by
  intro id session found
  cases s.turns_perform fresh call with
  | none same => exact grown id session ((find?_congr same id).symm.trans found)
  | begun onward more =>
    rw [find?_begun more, Option.or_eq_some_iff] at found
    rcases found with found | ⟨-, found⟩
    · exact grown id session found
    · split at found
      · cases found
        exact (Session.grown_fresh _ _).onward onward
      · cases found
  | moved chosen onward changed =>
    rename_i name index before after
    rw [find?_congr changed id, find?_setSession] at found
    split at found
    · rw [chosen] at found
      cases found
      exact (grown name before chosen).onward onward
    · exact grown id session found
  | finished fewer =>
    rename_i name
    rw [find?_congr fewer id] at found
    by_cases same : id = name
    · subst same
      cases (find?_remove_self s id).symm.trans found
    · exact grown id session ((find?_remove_of_ne s same).symm.trans found)

/-- The service after calls, each with what a session begun by it gets. -/
def after (s : Service) : List (Fresh × Call) → Service
  | [] => s
  | (fresh, call) :: rest => after (s.perform fresh call).2 rest

theorem grown_after (grown : ∀ id session, s.find? id = some session → session.Grown)
    (calls : List (Fresh × Call)) :
    ∀ id session, (s.after calls).find? id = some session → session.Grown := by
  induction calls generalizing s with
  | nil => exact grown
  | cons first rest ih => exact ih (grown_perform grown first.1 first.2)

end Service

end Gamebook.Api
