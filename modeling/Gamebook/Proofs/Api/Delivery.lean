import Gamebook.Proofs.Api.Response
import Gamebook.Proofs.Api.Sessions

/-! How a client gets the log of a session.

The log only grows by appending, and each answer says how far it goes. So a client that always asks from
where its last answer ended holds the whole log after each answer, whatever else is done with the session
in between.
-/

set_option autoImplicit false

namespace Gamebook.Api

/-- A client that gathers the log of a session, and the position from which it asks next. -/
structure Reader where
  cursor : Nat := 0
  lines : List Value := []

/-- A client adds what it is answered to what it has. From a failure it learns nothing. -/
def Reader.hear (reader : Reader) (response : Response) : Reader :=
  if response.status = 200 then
    match response.body.field? "log", response.body.field? "cursor" with
    | some (.list lines), some (.int cursor) => ⟨cursor.toNat, reader.lines ++ lines⟩
    | _, _ => reader
  else reader

/-- A session is begun, whatever its draws, and one client reads it: what it is answered then, it keeps,
and at times it asks for more. Meanwhile any requests are made, by anyone, but none that ends the
session. -/
inductive Read (intake : Intake) (id : String) : Service → Reader → Prop where
  | opened {s : Service} {chance : Dice} {r : Request} (missing : s.find? id = none)
      (asks : intake r = .ok .create) (well : (respond intake s ⟨id, chance⟩ r).1.status = 200) :
      Read intake id (respond intake s ⟨id, chance⟩ r).2
        (Reader.hear {} (respond intake s ⟨id, chance⟩ r).1)
  | other {s : Service} {reader : Reader} (so : Read intake id s reader) (fresh : Fresh) {r : Request}
      (lives : intake r ≠ .ok (.finish id)) : Read intake id (respond intake s fresh r).2 reader
  | more {s : Service} {reader : Reader} (so : Read intake id s reader) (fresh : Fresh) {r : Request}
      (asks : intake r = .ok (.view id reader.cursor)) :
      Read intake id (respond intake s fresh r).2 (reader.hear (respond intake s fresh r).1)

theorem Reader.hear_of_carries {reader : Reader} {response : Response} {lines : List Line} {length : Nat}
    (well : response.status = 200) (carries : response.Carries lines length) :
    reader.hear response = ⟨length, reader.lines ++ lines.map lineEntry⟩ := by
  unfold hear
  rw [if_pos well, carries.1, carries.2]
  rfl

theorem Reader.hear_of_failure {reader : Reader} {response : Response}
    (failed : response.status ≠ 200) : reader.hear response = reader :=
  if_neg failed

def Reader.Holds (reader : Reader) (log : List Line) : Prop :=
  reader.cursor ≤ log.length ∧ reader.lines = (log.take reader.cursor).map lineEntry

theorem Reader.Holds.of_prefix {reader : Reader} {log longer : List Line} (holds : reader.Holds log)
    (grown : log <+: longer) : reader.Holds longer := by
  obtain ⟨short, lines⟩ := holds
  obtain ⟨added, rfl⟩ := grown
  refine ⟨by rw [List.length_append]; omega, ?_⟩
  rw [lines, List.take_append_of_le_length short]

theorem Reader.Holds.hear {reader : Reader} {log : List Line} {response : Response}
    (holds : reader.Holds log) (well : response.status = 200)
    (carries : response.Carries (log.drop reader.cursor) log.length) :
    reader.hear response = ⟨log.length, log.map lineEntry⟩ := by
  rw [Reader.hear_of_carries well carries, holds.2, ← List.map_append, List.take_append_drop]

section

variable {intake : Intake} (lawful : intake.Lawful) {s : Service} {id : String} {session : Session}
include lawful

/-- A session that no request ends is still there after it, and its log begins as before. -/
theorem log_of_respond (found : s.find? id = some session) (fresh : Fresh) {r : Request}
    (lives : intake r ≠ .ok (.finish id)) :
    ∃ after, (respond intake s fresh r).2.find? id = some after ∧
      session.game.screen.log <+: after.game.screen.log := by
  cases read : intake r with
  | error problem =>
    have left : (respond intake s fresh r).2 = s := by
      unfold respond Service.answer
      rw [read]
    exact ⟨session, by rw [left]; exact found, List.prefix_rfl⟩
  | ok call =>
    rw [respond_of_read lawful read]
    have kept : call ≠ .finish id := fun ends => lives (by rw [read, ends])
    obtain ⟨after, here, onward⟩ := Service.find?_perform found fresh kept
    exact ⟨after, here, onward.log⟩

theorem carries_of_view (found : s.find? id = some session) (fresh : Fresh) {r : Request} {since : Int}
    (asks : intake r = .ok (.view id since)) :
    (respond intake s fresh r).2 = s ∧
      ((respond intake s fresh r).1.status = 200 → (respond intake s fresh r).1.Carries
        (session.game.screen.log.drop since.toNat) session.game.screen.log.length) := by
  have viewed : s.perform fresh (.view id since) =
      (.ok (.screen id (session.game.screen.snapshot since)), s) := Service.within_of_found found _
  rw [respond_of_read lawful asks, viewed]
  dsimp only
  exact ⟨rfl, fun well => Response.carries_of_ok well⟩

theorem carries_of_choose (found : s.find? id = some session) (fresh : Fresh) {r : Request} {index : Int}
    (asks : intake r = .ok (.choose id index)) (well : (respond intake s fresh r).1.status = 200) :
    ∃ after added, (respond intake s fresh r).2.find? id = some after ∧
      after.game.screen.log = session.game.screen.log ++ added ∧
      (respond intake s fresh r).1.Carries added after.game.screen.log.length := by
  have chosen : s.perform fresh (.choose id index) = s.choose id index session :=
    Service.within_of_found found _
  rw [respond_of_read lawful asks, chosen] at well ⊢
  rcases done : s.choose id index session with ⟨answer, t⟩
  rw [done] at well
  dsimp only at well ⊢
  obtain ⟨screen, rfl⟩ := Response.ok_of_status well
  obtain ⟨after, onward, here, rfl⟩ := Service.choose_eq_ok found done
  obtain ⟨added, log⟩ := onward.log
  refine ⟨after, added, here, log.symm, ?_⟩
  have carried := Response.carries_of_ok well
  have gained : (after.game.screen.snapshot session.game.screen.log.length).log = added := by
    unfold Screen.snapshot
    rw [← log, Int.toNat_natCast, List.drop_left]
  rw [gained] at carried
  exact carried

theorem carries_of_create {fresh : Fresh} (missing : s.find? fresh.id = none) {r : Request}
    (asks : intake r = .ok .create) (well : (respond intake s fresh r).1.status = 200) :
    ∃ begun, (respond intake s fresh r).2.find? fresh.id = some begun ∧
      (respond intake s fresh r).1.Carries begun.game.screen.log begun.game.screen.log.length := by
  rw [respond_of_read lawful asks, Service.perform_create] at well ⊢
  rcases done : s.create fresh with ⟨answer, t⟩
  rw [done] at well
  dsimp only at well ⊢
  obtain ⟨screen, rfl⟩ := Response.ok_of_status well
  obtain ⟨begun, rfl, more⟩ := Service.create_eq_ok done
  refine ⟨begun, ?_, ?_⟩
  · rw [Service.find?_begun more, missing, if_pos rfl]
    rfl
  · have carried := Response.carries_of_ok well
    have whole : (begun.game.screen.snapshot 0).log = begun.game.screen.log := rfl
    rw [whole] at carried
    exact carried

theorem Read.holds {s : Service} {reader : Reader} (reads : Read intake id s reader) :
    ∃ session, s.find? id = some session ∧ reader.Holds session.game.screen.log := by
  induction reads with
  | opened missing asks well =>
    obtain ⟨begun, found, carries⟩ := carries_of_create lawful missing asks well
    refine ⟨begun, found, ?_⟩
    rw [Reader.hear_of_carries well carries]
    exact ⟨Nat.le_refl _, by rw [List.take_length]; rfl⟩
  | other _ fresh lives ih =>
    obtain ⟨session, found, holds⟩ := ih
    obtain ⟨after, here, grown⟩ := log_of_respond lawful found fresh lives
    exact ⟨after, here, holds.of_prefix grown⟩
  | more _ fresh asks ih =>
    rename_i s reader _ r
    obtain ⟨session, found, holds⟩ := ih
    obtain ⟨left, carries⟩ := carries_of_view lawful found fresh asks
    rw [left]
    refine ⟨session, found, ?_⟩
    by_cases well : (respond intake s fresh r).1.status = 200
    · rw [holds.hear well (carries well)]
      exact ⟨Nat.le_refl _, by rw [List.take_length]⟩
    · rw [Reader.hear_of_failure well]
      exact holds

/-- Every line of the log is delivered exactly once, whatever the draws of the session. A reader holds the
beginning of the log, and after each answer the whole of it; what a choice answers is what it has added;
each answer says how long the log is; and no request makes the log anything but longer. -/
theorem log_delivery {reader : Reader} (reads : Read intake id s reader) :
    ∃ session, s.find? id = some session ∧
      let log := session.game.screen.log
      reader.Holds log ∧
      (∀ fresh r, intake r = .ok (.view id reader.cursor) → (respond intake s fresh r).1.status = 200 →
        reader.hear (respond intake s fresh r).1 = ⟨log.length, log.map lineEntry⟩) ∧
      (∀ fresh r, intake r ≠ .ok (.finish id) →
        ∃ after, (respond intake s fresh r).2.find? id = some after ∧ log <+: after.game.screen.log) ∧
      (∀ fresh r index, intake r = .ok (.choose id index) → (respond intake s fresh r).1.status = 200 →
        ∃ after added, (respond intake s fresh r).2.find? id = some after ∧
          after.game.screen.log = log ++ added ∧
          (respond intake s fresh r).1.Carries added after.game.screen.log.length) ∧
      (∀ fresh r since, intake r = .ok (.view id since) → (respond intake s fresh r).1.status = 200 →
        (respond intake s fresh r).1.Carries (log.drop since.toNat) log.length ∧
          (since ≤ 0 → log.drop since.toNat = log) ∧
          (log.length ≤ since → log.drop since.toNat = [])) ∧
      ∀ fresh r, s.find? fresh.id = none → intake r = .ok .create →
        (respond intake s fresh r).1.status = 200 →
        ∃ begun, (respond intake s fresh r).2.find? fresh.id = some begun ∧
          (respond intake s fresh r).1.Carries begun.game.screen.log begun.game.screen.log.length := by
  obtain ⟨session, found, holds⟩ := reads.holds lawful
  refine ⟨session, found, holds, ?_, ?_, ?_, ?_, ?_⟩
  · intro fresh r asks well
    exact holds.hear well ((carries_of_view lawful found fresh asks).2 well)
  · intro fresh r lives
    exact log_of_respond lawful found fresh lives
  · intro fresh r index asks well
    exact carries_of_choose lawful found fresh asks well
  · intro fresh r since asks well
    refine ⟨(carries_of_view lawful found fresh asks).2 well, fun early => ?_, fun late => ?_⟩
    · rw [Int.toNat_of_nonpos early]
      rfl
    · exact List.drop_eq_nil_of_le (by omega)
  · intro fresh r missing asks well
    exact carries_of_create lawful missing asks well

end

theorem log_delivery_twoTowns :
    let service : Service := ⟨.of .twoTowns Routine.builtin, {}, Routine.builtin, []⟩
    let ask (s : Service) (id method address : String) (body : Value) :=
      respond Call.read s ⟨id, .ofList []⟩ ⟨method, address, body⟩
    let opened := ask service "a" "POST" "/api/sessions" .null
    let index := Value.ofEntries [(.text "index", .int 0)]
    let chosen := ask opened.2 "b" "POST" "/api/sessions/a/choose" index
    let reader := Reader.hear {} opened.1
    let polled := ask chosen.2 "c" "GET" "/api/sessions/a?since=0" .null
    Read Call.read "a" chosen.2 reader ∧ opened.1.status = 200 ∧ polled.1.status = 200 ∧
      ∃ session, chosen.2.find? "a" = some session ∧ session.game.screen.log.length = 1 ∧
        reader.hear polled.1 = ⟨1, session.game.screen.log.map lineEntry⟩ := by
  intro service ask opened index chosen reader polled
  have create : Call.read ⟨"POST", "/api/sessions", .null⟩ = .ok .create :=
    Call.read_of_toOption (by decide +kernel)
  have choose : Call.read ⟨"POST", "/api/sessions/a/choose", index⟩ = .ok (.choose "a" 0) :=
    Call.read_of_toOption (by decide +kernel)
  have view : Call.read ⟨"GET", "/api/sessions/a?since=0", .null⟩ = .ok (.view "a" 0) :=
    Call.read_of_toOption (by decide +kernel)
  have begun : opened.1.status = 200 := by decide +kernel
  have answered : polled.1.status = 200 := by decide +kernel
  have reads : Read Call.read "a" chosen.2 reader :=
    .other (.opened rfl create begun) _ (by rw [choose]; simp)
  have start : reader.cursor = 0 := by decide +kernel
  have one : (chosen.2.find? "a").map (·.game.screen.log.length) = some 1 := by decide +kernel
  obtain ⟨session, found, -, whole, -⟩ := log_delivery Call.lawful_read reads
  rw [found] at one
  have length : session.game.screen.log.length = 1 := Option.some.inj one
  have held := whole ⟨"c", .ofList []⟩ _ (by rw [start]; exact view) answered
  rw [length] at held
  exact ⟨reads, begun, answered, session, found, length, held⟩

end Gamebook.Api
