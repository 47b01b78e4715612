import Gamebook.Proofs.Api.Response
import Gamebook.Proofs.Api.Sessions

/-! What is shown is what can be chosen.

The screen and the session hold one panel, whatever happens, and the revision counts how often it has
been replaced. So a client can choose just the options that a snapshot lists, and what is done is the
action of the option that it lists under the index.
-/

set_option autoImplicit false

namespace Gamebook

theorem Play.outcome_step_choose (s : Setting) {w : World} {n : Nat} {choice : Choice}
    (offered : w.game.panel[n]? = some choice) :
    outcome (step s (.choose n)) w =
      let (answer, v) := outcome (dispatch s maxDepth choice.action) w
      (answer.map fun _ => .nothing, v) := by
  change outcome (choose (dispatch s maxDepth) n >>= fun _ => pure Reply.nothing) w = _
  rw [outcome_bind, outcome_choose offered]
  rcases outcome (dispatch s maxDepth choice.action) w with ⟨answer, v⟩
  cases answer with
  | error stop => rfl
  | ok _ => rfl

/-- What a history tells of the panel of a game that has grown from a fresh one. -/
theorem Game.Grows.panels {s : Setting} {dice : Dice} {game : Game}
    (grown : (s.newGame dice).Grows game.history game) :
    game.screen.options = game.panel ∧ game.panel = Happening.panelAfter [] game.history ∧
      game.revision = (game.history.filterMap Happening.offer?).length :=
  ⟨grown.options.trans grown.panel.symm, grown.panel, grown.revision.trans (Nat.zero_add _)⟩

def Snapshot.Lists (snapshot : Snapshot) (index : Int) (text : Value) : Prop :=
  ∃ n : Nat, index = n ∧ snapshot.options[n]? = some text

theorem Screen.lists_iff (screen : Screen) (since index : Int) (text : Value) :
    (screen.snapshot since).Lists index text ↔
      ∃ n : Nat, index = n ∧ ∃ choice, screen.options[n]? = some choice ∧ choice.text = text := by
  unfold Snapshot.Lists snapshot
  simp only [List.getElem?_map, Option.map_eq_some_iff]

namespace Api

namespace Service

variable {s : Service} {id : String} {session : Session}

def dispatching (s : Service) (id : String) (session : Session) (action : Action) :
    Except Problem Answer × Service :=
  let (reply, world) := Play.outcome (Play.dispatch session.setting Play.maxDepth action)
    ⟨s.registry, session.game⟩
  let answer := match reply with
    | .error stop => .error (.ofStop stop)
    | .ok _ => .ok (.screen id (world.game.screen.snapshot session.game.screen.log.length))
  (answer, { s with registry := world.registry }.setSession id { session with game := world.game })

theorem choose_of_offered {n : Nat} {choice : Choice} (offered : session.game.panel[n]? = some choice) :
    s.choose id n session = s.dispatching id session choice.action := by
  obtain ⟨inside, -⟩ := List.getElem?_eq_some_iff.1 offered
  rw [choose_of_listed ⟨Int.natCast_nonneg n, Int.ofNat_lt.2 inside⟩]
  unfold Session.run dispatching
  rw [Play.outcome_step_choose session.setting (w := ⟨s.registry, session.game⟩) offered]
  rcases Play.outcome (Play.dispatch session.setting Play.maxDepth choice.action)
    ⟨s.registry, session.game⟩ with ⟨reply, world⟩
  cases reply with
  | error stop => rfl
  | ok _ => rfl

end Service

/-- What is dispatched is never answered like an option that is not there. -/
theorem status_dispatching (s : Service) (id : String) (session : Session) (action : Action) :
    (Response.of (s.dispatching id session action).1).sent.status ≠ 400 := by
  have plain : (Response.of (s.dispatching id session action).1).status = 200 ∨
      (Response.of (s.dispatching id session action).1).status = 500 := by
    unfold Service.dispatching
    rcases Play.outcome (Play.dispatch session.setting Play.maxDepth action)
      ⟨s.registry, session.game⟩ with ⟨reply, world⟩
    cases reply with
    | ok _ => exact .inl rfl
    | error stop => cases stop <;> exact .inr rfl
  have sent := (Response.of (s.dispatching id session action).1).status_sent
  omega

theorem status_noOption (index : Int) :
    (Response.of (.error (.noOption index))).sent.status = 400 := by
  have words : ∀ c ∈ "no option ".toList, c ≠ Text.mark := Text.unmarked_of_all (by decide +kernel)
  have unmarked : ∀ c ∈ ("no option " ++ toString index).toList, c ≠ Text.mark := by
    intro c member
    rw [String.toList_append, List.mem_append] at member
    rcases member with member | member
    · exact words c member
    · exact Text.unmarked_toString index c member
  have sent : (Response.of (.error (.noOption index))).sent = ⟨400, detail _⟩ :=
    Response.sent_of_text (Text.holdsHalf_of_unmarked unmarked)
  rw [sent]

/-- A response serves options, each with its place as its index. -/
def Response.Serves (response : Response) (choices : List Choice) : Prop :=
  response.body.field? "options" =
    some (.ofList (choices.mapIdx fun i choice => optionEntry i choice.text))

theorem serves_of_shown {screen : Screen} {panel : List Choice} (shown : screen.options = panel)
    {id : String} {since : Int}
    (well : (Response.of (.ok (.screen id (screen.snapshot since)))).sent.status = 200) :
    (Response.of (.ok (.screen id (screen.snapshot since)))).sent.Serves panel := by
  unfold Response.Serves
  rw [Response.options_of_ok well, Screen.snapshot, shown]
  refine congrArg (fun items => some (Value.ofList items)) (List.ext_getElem? fun i => ?_)
  rw [List.getElem?_mapIdx, List.getElem?_mapIdx, List.getElem?_map, Option.map_map]
  rfl

section

variable {s : Service} {id : String} {session : Session} (found : s.find? id = some session)
  (shown : session.game.screen.options = session.game.panel)
include found shown

theorem serves_of_view {intake : Intake} (lawful : intake.Lawful) {r : Request} {since : Int}
    (asks : intake r = .ok (.view id since)) (fresh : Fresh)
    (well : (respond intake s fresh r).1.status = 200) :
    (respond intake s fresh r).1.Serves session.game.panel := by
  have viewed : s.perform fresh (.view id since) =
      (.ok (.screen id (session.game.screen.snapshot since)), s) := Service.within_of_found found _
  rw [respond_of_read lawful asks, viewed] at well ⊢
  dsimp only at well ⊢
  exact serves_of_shown shown well

theorem choose_of_lists {index since : Int} {text : Value}
    (listed : (session.game.screen.snapshot since).Lists index text) (fresh : Fresh) :
    ∃ choice, session.game.panel[index.toNat]? = some choice ∧ choice.text = text ∧
      s.perform fresh (.choose id index) = s.dispatching id session choice.action := by
  rw [Screen.lists_iff, shown] at listed
  obtain ⟨n, rfl, choice, offered, named⟩ := listed
  refine ⟨choice, offered, named, ?_⟩
  exact (Service.within_of_found found _).trans (Service.choose_of_offered offered)

theorem choose_of_not_lists {index since : Int}
    (unlisted : ¬ ∃ text, (session.game.screen.snapshot since).Lists index text) (fresh : Fresh) :
    s.perform fresh (.choose id index) = (.error (.noOption index), s) := by
  have outside : ¬ (0 ≤ index ∧ index < session.game.panel.length) := by
    rintro ⟨positive, inside⟩
    obtain ⟨n, rfl⟩ := Int.eq_ofNat_of_zero_le positive
    obtain ⟨choice, offered⟩ : ∃ choice, session.game.screen.options[n]? = some choice := by
      rw [shown]
      exact ⟨_, List.getElem?_eq_getElem (Int.ofNat_lt.1 inside)⟩
    exact unlisted ⟨_, (session.game.screen.lists_iff since _ _).2 ⟨n, rfl, _, offered, rfl⟩⟩
  exact (Service.within_of_found found _).trans (Service.choose_of_unlisted outside)

end

/-- In every state of a session the screen shows the panel, every snapshot serves it, and the revision
counts its replacements. So of a service, whatever the draws of its sessions, every index that a snapshot
lists is chosen as the option listed there, and every other one is refused with status 400 and changes
nothing. -/
theorem shown_is_choosable {intake : Intake} (lawful : intake.Lawful) {source : Source} {config : Config}
    {opened : Service} (begins : Service.start source config = .ok opened) :
    (∀ (s : Setting) (registry : Registry Routine) (dice : Dice) (operations : List Operation),
      let game := (s.after (s.newWorld registry dice) operations).game
      game.screen.options = game.panel ∧ game.panel = Happening.panelAfter [] game.history ∧
        game.revision = (game.history.filterMap Happening.offer?).length ∧
        ∀ id since, (Response.of (.ok (.screen id (game.screen.snapshot since)))).sent.status = 200 →
          (Response.of (.ok (.screen id (game.screen.snapshot since)))).sent.Serves game.panel) ∧
    ∀ calls id session, (opened.after calls).find? id = some session →
      let service := opened.after calls
      let panel := session.game.panel
      (∀ fresh r since, intake r = .ok (.view id since) →
        (respond intake service fresh r).1.status = 200 →
        (respond intake service fresh r).1.Serves panel) ∧
      ∀ fresh r index since, intake r = .ok (.choose id index) →
        let snapshot := session.game.screen.snapshot since
        let (response, after) := respond intake service fresh r
        (response.status = 400 ↔ ¬ ∃ text, snapshot.Lists index text) ∧
        (response.status = 400 → after = service) ∧
        ∀ text, snapshot.Lists index text →
          ∃ choice, panel[index.toNat]? = some choice ∧ choice.text = text ∧
            service.answer intake fresh r = service.dispatching id session choice.action := by
  refine ⟨fun s registry dice operations => ?_, fun calls id session found => ?_⟩
  · obtain ⟨-, grown⟩ := s.chronicle registry dice operations
    obtain ⟨shown, panel, revision⟩ := grown.panels
    exact ⟨shown, panel, revision, fun id since well => serves_of_shown shown well⟩
  intro service panel
  have shown : session.game.screen.options = panel := by
    obtain ⟨dice, grown⟩ : session.Grown := by
      refine Service.grown_after (fun id session found => ?_) calls id session found
      unfold Service.find? at found
      rw [Service.sessions_of_start begins] at found
      cases found
    exact grown.panels.1
  refine ⟨fun fresh r since asks well => serves_of_view found shown lawful asks fresh well, ?_⟩
  intro fresh r index since read snapshot
  rw [respond_of_read lawful read, Service.answer_of_read read]
  have refused (unlisted : ¬ ∃ text, snapshot.Lists index text) :=
    choose_of_not_lists found shown unlisted fresh
  have dispatched (text : Value) (listed : snapshot.Lists index text) :=
    choose_of_lists found shown listed fresh
  refine ⟨⟨?_, ?_⟩, ?_, dispatched⟩
  · rintro is400 ⟨text, listed⟩
    obtain ⟨choice, -, -, done⟩ := dispatched text listed
    rw [done] at is400
    exact status_dispatching service id session choice.action is400
  · intro unlisted
    rw [refused unlisted]
    exact status_noOption index
  · intro is400
    by_cases listed : ∃ text, snapshot.Lists index text
    · obtain ⟨text, listed⟩ := listed
      obtain ⟨choice, -, -, done⟩ := dispatched text listed
      rw [done] at is400
      exact absurd is400 (status_dispatching service id session choice.action)
    · rw [refused listed]

theorem shown_is_choosable_twoTowns :
    let source := Source.of .twoTowns Routine.builtin
    let opened : Service := ⟨source, {}, Routine.builtin, []⟩
    let fresh (id : String) : Fresh := ⟨id, .ofList []⟩
    let service := opened.after [(fresh "a", .create), (fresh "b", .create), (fresh "c", .choose "b" 0)]
    let chooses (index : String) : Request :=
      ⟨"post", "/api/sessions/b/choose", .ofEntries [(.text "index", .text index)]⟩
    let below := respond Call.read service (fresh "d") (chooses "-1")
    let last := respond Call.read service (fresh "d") (chooses "1")
    Service.start source {} = .ok opened ∧
      ∃ session, service.find? "b" = some session ∧ session.game.screen.options.length = 2 ∧
        below.1.status = 400 ∧ below.2 = service ∧ last.1.status ≠ 400 ∧
        ∃ choice, session.game.panel[1]? = some choice ∧
          service.answer Call.read (fresh "d") (chooses "1") =
            service.dispatching "b" session choice.action := by
  intro source opened fresh service chooses below last
  have begins : Service.start source {} = .ok opened := rfl
  have readBelow : Call.read (chooses "-1") = .ok (.choose "b" (-1)) :=
    Call.read_of_toOption (by decide +kernel)
  have readLast : Call.read (chooses "1") = .ok (.choose "b" 1) :=
    Call.read_of_toOption (by decide +kernel)
  have two : (service.find? "b").map (·.game.screen.options.length) = some 2 := by decide +kernel
  obtain ⟨session, found, length⟩ := Option.map_eq_some_iff.1 two
  obtain ⟨-, clients⟩ := shown_is_choosable Call.lawful_read begins
  obtain ⟨-, chosen⟩ := clients _ "b" session found
  obtain ⟨refused, unchanged, -⟩ := chosen (fresh "d") _ (-1) 0 readBelow
  obtain ⟨offered, -, dispatched⟩ := chosen (fresh "d") _ 1 0 readLast
  have unlisted : ¬ ∃ text, (session.game.screen.snapshot 0).Lists (-1) text := by
    rintro ⟨text, n, negative, -⟩
    omega
  have listed : ∃ text, (session.game.screen.snapshot 0).Lists 1 text :=
    ⟨_, 1, rfl, List.getElem?_eq_getElem (by simp [Screen.snapshot, length])⟩
  obtain ⟨text, listing⟩ := listed
  obtain ⟨choice, there, -, done⟩ := dispatched text listing
  have is400 := refused.2 unlisted
  refine ⟨begins, session, found, length, is400, unchanged is400, ?_, choice, there, done⟩
  exact fun is400 => offered.1 is400 ⟨text, listing⟩

end Api

end Gamebook
