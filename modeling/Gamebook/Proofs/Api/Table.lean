import Gamebook.Proofs.Api.Response
import Gamebook.Proofs.Api.Sessions
import Mathlib.Tactic.Tauto

/-! The table of sessions over a history of requests.

A session is in the table from when it was begun until it is ended, and nothing else puts it there or
takes it away. What fails to begin leaves no trace, and a request touches no session but the one that it
names.
-/

set_option autoImplicit false

namespace Gamebook.Api

structure Exchange where
  fresh : Fresh
  request : Request
  answer : Except Problem Answer
  response : Response

namespace Exchange

/-- What is answered cannot be put into JSON. -/
def IsUnsendable (e : Exchange) : Prop :=
  ∃ answer, e.answer = .ok answer ∧ answer.body.isSendable = false

variable (intake : Intake)

/-- The exchange has begun a session under an id: the client is told so, or cannot be told. -/
def Begins (e : Exchange) (id : String) : Prop :=
  intake e.request = .ok .create ∧ e.fresh.id = id ∧ (e.response.status = 200 ∨ e.IsUnsendable)

def Ends (e : Exchange) (id : String) : Prop :=
  intake e.request = .ok (.finish id) ∧ e.response.status = 200

end Exchange

section

variable (intake : Intake)

def Live (id : String) (history : List Exchange) : Prop :=
  ∃ earlier begun later, history = earlier ++ begun :: later ∧ begun.Begins intake id ∧
    ∀ e ∈ later, ¬e.Ends intake id

theorem live_nil (id : String) : ¬Live intake id [] := by
  rintro ⟨earlier, begun, later, whole, -⟩
  exact List.append_ne_nil_of_right_ne_nil earlier (List.cons_ne_nil begun later) whole.symm

theorem live_cons {id : String} {first : Exchange} {rest : List Exchange} :
    Live intake id (first :: rest) ↔
      Live intake id rest ∨ (first.Begins intake id ∧ ∀ e ∈ rest, ¬e.Ends intake id) := by
  constructor
  · rintro ⟨earlier, begun, later, whole, begins, lasts⟩
    cases earlier with
    | nil =>
      cases whole
      exact .inr ⟨begins, lasts⟩
    | cons _ earlier =>
      cases whole
      exact .inl ⟨earlier, begun, later, rfl, begins, lasts⟩
  · rintro (⟨earlier, begun, later, rfl, begins, lasts⟩ | ⟨begins, lasts⟩)
    · exact ⟨first :: earlier, begun, later, rfl, begins, lasts⟩
    · exact ⟨[], first, rest, rfl, begins, lasts⟩

end

namespace Service

theorem status_of_started {s : Service} {chance : Dice} {problem : Problem}
    (stopped : s.started chance = .error problem) : problem.status = 500 := by
  unfold started at stopped
  split at stopped
  · cases stopped
    rfl
  · split at stopped
    · rename_i stop _ _ _
      cases stopped
      cases stop <;> rfl
    · cases stopped

def holds (s : Service) (id : String) : Bool := (s.find? id).isSome

theorem holds_congr {s t : Service} (same : t.sessions = s.sessions) (id : String) :
    t.holds id = s.holds id := by
  unfold holds
  rw [find?_congr same]

theorem holds_create (s : Service) (fresh : Fresh) (id : String) :
    (s.create fresh).2.holds id = true ↔
      (fresh.id = id ∧ ∃ session, s.started fresh.chance = .ok session) ∨ s.holds id = true := by
  obtain ⟨-, sessions⟩ := s.create_of_started fresh
  cases started : s.started fresh.chance with
  | error problem =>
    rw [started] at sessions
    rw [holds_congr (sessions.trans (List.append_nil _))]
    simp
  | ok session =>
    rw [started] at sessions
    have more : (s.create fresh).2.sessions = s.sessions ++ [(fresh.id, session)] := sessions
    unfold holds
    rw [find?_begun more, Option.isSome_or, Bool.or_eq_true, or_comm]
    by_cases own : id = fresh.id
    · simp [own]
    · simp [own, Ne.symm own]

theorem holds_perform (s : Service) (fresh : Fresh) {call : Call} (begins : call ≠ .create)
    (ends : ∀ id, call ≠ .finish id) (id : String) : (s.perform fresh call).2.holds id = s.holds id := by
  cases s.turns_perform fresh call with
  | none same => exact holds_congr same id
  | begun => exact absurd rfl begins
  | moved found onward changed =>
    rw [holds_congr changed]
    unfold holds
    rw [find?_setSession]
    split
    · rename_i same
      rw [same, Option.isSome_map]
    · rfl
  | finished => exact absurd rfl (ends _)

theorem holds_remove (s : Service) (id other : String) :
    (s.remove id).holds other = (s.holds other && other != id) := by
  unfold holds
  by_cases same : other = id
  · rw [same, find?_remove_self]
    simp
  · rw [find?_remove_of_ne s same]
    simp [same]

section

variable (intake : Intake)

def handled (s : Service) : List (Fresh × Request) → Service
  | [] => s
  | (fresh, r) :: rest => handled (respond intake s fresh r).2 rest

def exchange (s : Service) (fresh : Fresh) (r : Request) : Exchange :=
  ⟨fresh, r, (s.answer intake fresh r).1, (respond intake s fresh r).1⟩

def exchanges (s : Service) : List (Fresh × Request) → List Exchange
  | [] => []
  | (fresh, r) :: rest => s.exchange intake fresh r :: exchanges (respond intake s fresh r).2 rest

end

theorem ids_setSession (s : Service) (id : String) (session : Session) :
    (s.setSession id session).sessions.map Prod.fst = s.sessions.map Prod.fst := by
  rw [setSession, List.map_map]
  rfl

section

variable {intake : Intake} (lawful : intake.Lawful) {s : Service} {fresh : Fresh} {r : Request}
include lawful

theorem respond_of_unread {problem : Problem} (unread : intake r = .error problem) :
    (respond intake s fresh r).1.status = problem.status ∧ (respond intake s fresh r).2 = s := by
  unfold respond answer
  rw [unread]
  refine ⟨?_, rfl⟩
  dsimp only
  split <;> exact lawful.status_of_unread unread

theorem respond_of_missing {call : Call} (read : intake r = .ok call) {id : String}
    (names : call.id? = some id) (missing : s.find? id = none) :
    (respond intake s fresh r).1.status = 404 ∧ (respond intake s fresh r).2 = s := by
  have answered : s.perform fresh call = (.error (.unknownSession id), s) := by
    cases call with
    | create => cases names
    | _ =>
      cases names
      exact within_of_missing missing _
  have words : ∀ c ∈ "unknown session ".toList, c ≠ Text.mark :=
    Text.unmarked_of_all (by decide +kernel)
  have whole : Text.holdsHalf ("unknown session " ++ id) = false := by
    have own := lawful.id read names
    unfold Text.holdsHalf at own ⊢
    rw [Text.symbols_append words, List.any_append, own, List.any_map]
    rfl
  have sent : (Response.of (.error (.unknownSession id))).sent = ⟨404, detail _⟩ :=
    Response.sent_of_text whole
  rw [respond_of_read lawful read, answered]
  exact ⟨by rw [sent], rfl⟩

theorem find?_respond_of_ne {id : String} (notBegun : fresh.id ≠ id)
    (notNamed : ∀ call, intake r = .ok call → call.id? ≠ some id) :
    (respond intake s fresh r).2.find? id = s.find? id := by
  cases read : intake r with
  | error problem => rw [(respond_of_unread lawful read).2]
  | ok call =>
    have apart := notNamed call read
    rw [respond_of_read lawful read]
    cases s.turns_perform fresh call with
    | none same => exact find?_congr same id
    | begun onward more =>
      rw [find?_begun more, if_neg (Ne.symm notBegun), Option.or_none]
    | moved found onward changed =>
      rw [find?_congr changed, find?_setSession, if_neg]
      rintro rfl
      exact apart rfl
    | finished fewer =>
      rw [find?_congr fewer, find?_remove_of_ne]
      rintro rfl
      exact apart rfl

theorem ids_respond (s : Service) (fresh : Fresh) (r : Request) :
    ((respond intake s fresh r).2.sessions.map Prod.fst).Sublist
      (s.sessions.map Prod.fst ++ [fresh.id]) := by
  cases read : intake r with
  | error problem =>
    rw [(respond_of_unread lawful read).2]
    exact List.sublist_append_left _ _
  | ok call =>
    rw [respond_of_read lawful read]
    cases s.turns_perform fresh call with
    | none same =>
      rw [same]
      exact List.sublist_append_left _ _
    | begun onward more =>
      rw [more, List.map_append]
      exact .refl _
    | moved found onward changed =>
      rw [changed, ids_setSession]
      exact List.sublist_append_left _ _
    | finished fewer =>
      rw [fewer, remove]
      exact (List.filter_sublist.map _).trans (List.sublist_append_left _ _)

theorem nodup_handled {requests : List (Fresh × Request)}
    (distinct : (s.sessions.map Prod.fst ++ requests.map (·.1.id)).Nodup) :
    ((s.handled intake requests).sessions.map Prod.fst).Nodup := by
  induction requests generalizing s with
  | nil => simpa [handled] using distinct
  | cons first rest ih =>
    obtain ⟨fresh, r⟩ := first
    refine ih (distinct.sublist ?_)
    have step := (ids_respond lawful s fresh r).append_right (rest.map (·.1.id))
    simpa using step

theorem respond_of_create (s : Service) (fresh : Fresh) (asks : intake r = .ok .create) :
    match s.started fresh.chance with
    | .error _ =>
      (respond intake s fresh r).1.status = 500 ∧ (respond intake s fresh r).2.sessions = s.sessions
    | .ok session =>
      let screen := Answer.screen fresh.id (session.game.screen.snapshot 0)
      (s.answer intake fresh r).1 = .ok screen ∧
        (respond intake s fresh r).1 = (Response.of (.ok screen)).sent ∧
        (respond intake s fresh r).2.sessions = s.sessions ++ [(fresh.id, session)] := by
  obtain ⟨answer, sessions⟩ := s.create_of_started fresh
  rw [answer_of_read asks, respond_of_read lawful asks, perform_create]
  cases started : s.started fresh.chance with
  | error problem =>
    rw [started] at answer sessions
    refine ⟨?_, sessions.trans (List.append_nil _)⟩
    have failed : (Response.of (s.create fresh).1).status = 500 := by
      rw [answer]
      exact status_of_started started
    have sent := (Response.of (s.create fresh).1).status_sent
    dsimp only
    omega
  | ok session =>
    rw [started] at answer sessions
    dsimp only
    rw [answer]
    exact ⟨rfl, rfl, sessions⟩

theorem begins_exchange_iff (asks : intake r = .ok .create) (id : String) :
    (s.exchange intake fresh r).Begins intake id ↔
      fresh.id = id ∧ ∃ session, s.started fresh.chance = .ok session := by
  have done : (s.exchange intake fresh r).response.status = 200 ∨
      (s.exchange intake fresh r).IsUnsendable ↔
      ∃ session, s.started fresh.chance = .ok session := by
    have created := respond_of_create lawful s fresh asks
    cases started : s.started fresh.chance with
    | error problem =>
      rw [started] at created
      have failed : (s.exchange intake fresh r).answer = .error problem := by
        change (s.answer intake fresh r).1 = _
        rw [answer_of_read asks]
        change (s.create fresh).1 = _
        rw [(s.create_of_started fresh).1, started]
        rfl
      constructor
      · rintro (well | ⟨answer, answered, -⟩)
        · exact absurd (created.1.symm.trans well) (by decide)
        · rw [failed] at answered
          cases answered
      · rintro ⟨session, begun⟩
        cases begun
    | ok session =>
      rw [started] at created
      obtain ⟨answered, responded, -⟩ := created
      have sent : (s.exchange intake fresh r).response = _ := responded
      refine ⟨fun _ => ⟨session, rfl⟩, fun _ => ?_⟩
      rw [sent, Response.status_sent_eq]
      cases sendable : (Answer.screen fresh.id (session.game.screen.snapshot 0)).body.isSendable with
      | true => exact .inl (if_pos sendable)
      | false => exact .inr ⟨_, answered, sendable⟩
  unfold Exchange.Begins
  rw [done]
  exact ⟨fun begins => begins.2, fun begun => ⟨asks, begun⟩⟩

theorem ends_exchange_iff {name : String} (asks : intake r = .ok (.finish name)) (id : String) :
    (s.exchange intake fresh r).Ends intake id ↔ name = id ∧ s.holds name = true := by
  have done : (s.exchange intake fresh r).response.status = 200 ↔ s.holds name = true := by
    unfold holds
    cases found : s.find? name with
    | none =>
      have missing : (s.exchange intake fresh r).response.status = 404 :=
        (respond_of_missing lawful asks rfl found).1
      rw [missing]
      exact ⟨fun never => absurd never (by decide), fun never => absurd never (by decide)⟩
    | some session =>
      have ended : s.perform fresh (.finish name) = (.ok (.finished name), s.remove name) := by
        change s.within name _ = _
        exact within_of_found found _
      have sent : (respond intake s fresh r).1 = (Response.of (.ok (.finished name))).sent := by
        rw [respond_of_read lawful asks, ended]
      change (respond intake s fresh r).1.status = 200 ↔ _
      rw [sent, Response.status_of_finished (lawful.id asks rfl)]
      exact ⟨fun _ => rfl, fun _ => rfl⟩
  unfold Exchange.Ends
  rw [done]
  constructor
  · rintro ⟨again, held⟩
    cases asks.symm.trans again
    exact ⟨rfl, held⟩
  · rintro ⟨rfl, held⟩
    exact ⟨asks, held⟩

/-- An exchange changes the ids in the table by the one under which it begins or ends a session. -/
theorem holds_respond (s : Service) (fresh : Fresh) (r : Request) (id : String) :
    (respond intake s fresh r).2.holds id = true ↔
      (s.exchange intake fresh r).Begins intake id ∨
        s.holds id = true ∧ ¬(s.exchange intake fresh r).Ends intake id := by
  have unbegun (other : intake r ≠ .ok .create) : ¬(s.exchange intake fresh r).Begins intake id :=
    fun begins => other begins.1
  have unended (other : intake r ≠ .ok (.finish id)) : ¬(s.exchange intake fresh r).Ends intake id :=
    fun ends => other ends.1
  cases read : intake r with
  | error problem =>
    rw [(respond_of_unread lawful read).2]
    simp [unbegun (by simp [read]), unended (by simp [read])]
  | ok call =>
    rw [respond_of_read lawful read]
    cases call with
    | create =>
      have unended := unended (by simp [read])
      rw [perform_create, holds_create, begins_exchange_iff lawful read]
      simp [unended]
    | view name since =>
      rw [holds_perform s fresh (by simp) (by simp)]
      simp [unbegun (by simp [read]), unended (by simp [read])]
    | choose name index =>
      rw [holds_perform s fresh (by simp) (by simp)]
      simp [unbegun (by simp [read]), unended (by simp [read])]
    | finish name =>
      have fewer : (s.perform fresh (.finish name)).2.holds id = (s.holds id && id != name) := by
        change (s.within name _).2.holds id = _
        cases found : s.find? name with
        | none =>
          rw [within_of_missing found]
          by_cases same : id = name
          · simp [same, holds, found]
          · simp [same]
        | some session => rw [within_of_found found, holds_remove]
      rw [fewer, ends_exchange_iff lawful read]
      have unbegun := unbegun (by simp [read])
      by_cases same : id = name
      · subst same
        simp [unbegun]
      · simp [unbegun, same, Ne.symm same]

/-- What is in the table in the end was begun on the way, or was there before and has not been ended. -/
theorem holds_handled (s : Service) (requests : List (Fresh × Request)) (id : String) :
    (s.handled intake requests).holds id = true ↔
      Live intake id (s.exchanges intake requests) ∨
        s.holds id = true ∧ ∀ e ∈ s.exchanges intake requests, ¬e.Ends intake id := by
  induction requests generalizing s with
  | nil => simp [handled, exchanges, live_nil]
  | cons first rest ih =>
    obtain ⟨fresh, r⟩ := first
    rw [handled, exchanges, ih, holds_respond lawful, live_cons, List.forall_mem_cons]
    tauto

end

end Service

/-- After any requests to a service, whatever the draws of its sessions, the table holds just the sessions
that were begun and not ended since; under distinct fresh ids it holds each once. Beginning is answered
with status 200, or with 500 where the screen cannot be put into JSON; ending is answered with status 200.
A session that fails to get under way is answered with status 500 and leaves the table as it was; a session
that is not in the table is answered with 404, and nothing changes; a choice keeps its session, however it
ends; and nothing changes for any session but the one that a request names or begins. A request that is not
read is refused for its form, whether or not there is a session that it names, and nothing changes. -/
theorem Service.table_of_history {intake : Intake} (lawful : intake.Lawful) {source : Source}
    {config : Config} {opened : Service} (begins : Service.start source config = .ok opened)
    (requests : List (Fresh × Request)) :
    let service := opened.handled intake requests
    let history := opened.exchanges intake requests
    (∀ id, (∃ session, service.find? id = some session) ↔
      ∃ earlier begun later, history = earlier ++ begun :: later ∧ begun.Begins intake id ∧
        ∀ e ∈ later, ¬e.Ends intake id) ∧
    ((requests.map (·.1.id)).Nodup → (service.sessions.map Prod.fst).Nodup) ∧
    ∀ fresh r,
      let response := (respond intake service fresh r).1
      let after := (respond intake service fresh r).2
      (intake r = .ok .create →
        match service.started fresh.chance with
        | .error _ => response.status = 500 ∧ after.sessions = service.sessions
        | .ok session =>
          let screen := Answer.screen fresh.id (session.game.screen.snapshot 0)
          (service.answer intake fresh r).1 = .ok screen ∧ response = (Response.of (.ok screen)).sent ∧
            after.sessions = service.sessions ++ [(fresh.id, session)]) ∧
      (∀ call id, intake r = .ok call → call.id? = some id → service.find? id = none →
        response.status = 404 ∧ after = service) ∧
      (∀ id index session, intake r = .ok (.choose id index) → service.find? id = some session →
        ∃ kept, after.find? id = some kept ∧ session.Onward kept) ∧
      (∀ id, fresh.id ≠ id → (∀ call, intake r = .ok call → call.id? ≠ some id) →
        after.find? id = service.find? id) ∧
      ∀ problem, intake r = .error problem → response.status = problem.status ∧ after = service := by
  intro service history
  have empty := sessions_of_start begins
  refine ⟨fun id => ?_, fun distinct => ?_, fun fresh r => ?_⟩
  · have table := holds_handled lawful opened requests id
    have none : opened.holds id = false := by
      unfold holds find?
      rw [empty]
      rfl
    rw [none] at table
    simpa [holds, Option.isSome_iff_exists, Live] using table
  · refine nodup_handled lawful ?_
    rw [empty]
    exact distinct
  intro response after
  refine ⟨respond_of_create lawful service fresh, fun call id read names missing =>
    respond_of_missing lawful read names missing, fun id index session read found => ?_,
    fun id notBegun notNamed => find?_respond_of_ne lawful notBegun notNamed,
    fun problem unread => respond_of_unread lawful unread⟩
  have lives : Call.choose id index ≠ .finish id := by simp
  obtain ⟨kept, still, onward⟩ := find?_perform found fresh lives
  refine ⟨kept, ?_, onward⟩
  change (respond intake service fresh r).2.find? id = some kept
  rw [respond_of_read lawful read]
  exact still

def crossing : Script where
  sites := [
    { id := "ford", name := "Ford"
      events := [
        { id := "calm", weight := 1, text := "The water is low." },
        { id := "flood", weight := 1, action := some (.named "drown") }] }]
  events := []
  entry := { site := "ford" }

theorem Service.table_of_history_crossing :
    let source := Source.of crossing Routine.builtin
    let opened : Service := ⟨source, {}, Routine.builtin, []⟩
    let post : Request := ⟨"POST", "/api/sessions", .null⟩
    let delete : Request := ⟨"DELETE", "/api/sessions/a", .null⟩
    let calm (id : String) : Fresh := ⟨id, .ofList [0.25]⟩
    let flood (id : String) : Fresh := ⟨id, .ofList [0.75]⟩
    let requests := [(calm "a", post), (flood "b", post), (calm "c", post), (calm "d", delete)]
    let service := opened.handled Call.read requests
    let again := respond Call.read service (calm "e") delete
    Service.start source {} = .ok opened ∧
      (opened.exchanges Call.read requests).map (·.response.status) = [200, 500, 200, 200] ∧
      (∃ session, service.find? "c" = some session) ∧ (service.sessions.map Prod.fst).Nodup ∧
      again.1.status = 404 ∧ again.2 = service := by
  intro source opened post delete calm flood requests service again
  have begins : Service.start source {} = .ok opened := rfl
  have asks : Call.read post = .ok .create := Call.read_of_toOption (by decide +kernel)
  have ends : Call.read delete = .ok (.finish "a") := Call.read_of_toOption (by decide +kernel)
  obtain ⟨table, once, clients⟩ := table_of_history Call.lawful_read begins requests
  obtain ⟨-, missing, -⟩ := clients (calm "e") delete
  have gone : service.find? "a" = none := Option.isNone_iff_eq_none.1 (by decide +kernel)
  refine ⟨begins, by decide +kernel, (table "c").2 ?_, once (by decide), missing _ "a" ends rfl gone⟩
  refine ⟨[_, _], _, [_], rfl, ⟨asks, rfl, .inl (by decide +kernel)⟩, ?_⟩
  intro e member
  obtain rfl := List.mem_singleton.1 member
  rintro ⟨other, -⟩
  have same : Call.finish "a" = .finish "c" := Except.ok.inj (ends.symm.trans other)
  exact absurd same (by decide)

def halfTold : Script where
  sites := [{ id := "ford", name := "Ford" }]
  events := []
  entry := { site := "ford", story := Text.ofSymbols [.half 0] }

/-- Not all that is begun can be told, and not all that is asked of a missing session is answered with
404: a session is kept though its screen cannot be sent, and an index that is no number is refused before
the session is looked for. -/
theorem Service.kept_unsent :
    let source := Source.of halfTold Routine.builtin
    let opened : Service := ⟨source, {}, Routine.builtin, []⟩
    let post : Request := ⟨"POST", "/api/sessions", .null⟩
    let unread : Request := ⟨"POST", "/api/sessions/b/choose", .ofEntries [(.text "index", .text "x")]⟩
    let (response, service) := respond Call.read opened ⟨"a", .ofList []⟩ post
    Service.start source {} = .ok opened ∧ response.status = 500 ∧
      (service.find? "a").isSome = true ∧ service.find? "b" = none ∧
      (respond Call.read service ⟨"c", .ofList []⟩ unread).1.status = 422 := by
  refine ⟨rfl, ?_, ?_, Option.isNone_iff_eq_none.1 ?_, ?_⟩ <;> decide +kernel

end Gamebook.Api
