import Gamebook.Proofs.Api.Intake

/-! What clients read in responses.

A response that goes well carries what was answered, number by number and text by text; a failure says
by its status which kind it is.
-/

set_option autoImplicit false

namespace Gamebook

namespace Text

theorem unmarked_of_all {s : String} (words : s.toList.all (· != mark) = true) :
    ∀ c ∈ s.toList, c ≠ mark :=
  fun c member => bne_iff_ne.1 (List.all_eq_true.1 words c member)

/-- A text without the mark stands before another one symbol by symbol. -/
theorem symbols_append {s t : String} (unmarked : ∀ c ∈ s.toList, c ≠ mark) :
    symbols (s ++ t) = s.toList.map .char ++ symbols t := by
  unfold symbols
  rw [String.toList_append]
  generalize s.toList = cs at unmarked
  induction cs with
  | nil => rfl
  | cons c rest ih =>
    rw [List.cons_append, decode_cons_of_ne (unmarked c List.mem_cons_self),
      ih fun d member => unmarked d (List.mem_cons_of_mem c member)]
    rfl

theorem holdsHalf_of_unmarked {s : String} (unmarked : ∀ c ∈ s.toList, c ≠ mark) :
    holdsHalf s = false := by
  have chars : symbols s = s.toList.map .char := by
    have none : symbols "" = [] := rfl
    simpa [none] using symbols_append (t := "") unmarked
  unfold holdsHalf
  rw [chars, List.any_map]
  exact List.any_eq_false.2 fun _ _ => Bool.false_ne_true

theorem unmarked_toString (n : Int) : ∀ c ∈ (toString n).toList, c ≠ mark := by
  rintro c member rfl
  rcases eq_minus_or_isDigit member with minus | digit
  · revert minus
    decide
  · revert digit
    decide

end Text

namespace Api

/-- A field of the mapping that a body holds. -/
def Body.field? (body : Body) (name : String) : Option Value :=
  match body with
  | .json (.mapping entries) => Entries.get? entries name
  | _ => none

/-- Whether a body can be put into JSON. -/
def Body.isSendable : Body → Bool
  | .json v => v.isSendable
  | _ => true

def optionEntry (index : Nat) (text : Value) : Value :=
  .ofEntries [(.text "index", .int index), (.text "text", text.finite)]

def lineEntry (line : Line) : Value :=
  .ofEntries [(.text "text", line.text.finite), (.text "types", .ofList (line.types.map .text))]

theorem finiteItems_eq (items : List Value) : Value.finiteItems items = items.map Value.finite := by
  induction items with
  | nil => rfl
  | cons v rest ih => rw [Value.finiteItems, ih, List.map_cons]

theorem finite_ofList (items : List Value) :
    (Value.ofList items).finite = .ofList (items.map Value.finite) :=
  congrArg Value.ofList (finiteItems_eq items)

theorem finite_toValue (line : Line) : line.toValue.finite = lineEntry line := by
  unfold Line.toValue lineEntry Value.ofEntries Value.ofList
  simp [Value.finite, Value.finiteEntries, finiteItems_eq, Value.ofList, Value.ofEntries]

namespace Response

theorem status_sent_eq (r : Response) :
    r.sent.status = if r.body.isSendable then r.status else 500 := by
  unfold sent Body.isSendable
  cases r.body with
  | json v => cases sendable : v.isSendable <;> simp [sendable]
  | _ => rfl

theorem status_sent (r : Response) : r.sent.status = r.status ∨ r.sent.status = 500 := by
  rw [status_sent_eq]
  split
  · exact .inl rfl
  · exact .inr rfl

theorem sent_of_text {status : Nat} {text : String} (whole : Text.holdsHalf text = false) :
    (Response.mk status (detail text)).sent = ⟨status, detail text⟩ := by
  have sendable : (Value.ofEntries [(.text "detail", .text text)]).isSendable = true := by
    have key : Text.holdsHalf "detail" = false := by decide +kernel
    simp [Value.ofEntries, Value.isSendable, Value.entriesSendable, whole, key]
  unfold sent detail
  dsimp only
  rw [if_pos sendable]
  rfl

theorem status_of_finished {id : String} (whole : Text.holdsHalf id = false) :
    (of (.ok (.finished id))).sent.status = 200 := by
  have sendable : (Answer.finished id).body.isSendable = true := by
    have name : Text.holdsHalf "session_id" = false := by decide +kernel
    have ended : Text.holdsHalf "ended" = false := by decide +kernel
    simp [Answer.body, Value.ofEntries, Value.isSendable, Value.entriesSendable, whole, name, ended]
  rw [status_sent_eq]
  exact if_pos sendable

theorem ok_of_status {answer : Except Problem Answer} (well : (of answer).sent.status = 200) :
    ∃ a, answer = .ok a := by
  cases answer with
  | ok a => exact ⟨a, rfl⟩
  | error problem =>
    have other : (of (.error problem)).status ≠ 200 := by
      cases problem <;> simp [of, Problem.status]
    have sent := (of (.error problem)).status_sent
    omega

/-- A response carries lines of a log, and says how long the log is. -/
def Carries (r : Response) (lines : List Line) (length : Nat) : Prop :=
  r.body.field? "log" = some (.ofList (lines.map lineEntry)) ∧
    r.body.field? "cursor" = some (.int length)

variable {id : String} {snapshot : Snapshot}
  (well : (of (.ok (.screen id snapshot))).sent.status = 200)
include well

theorem body_of_ok : (of (.ok (.screen id snapshot))).sent.body =
    .json (.ofEntries (Value.finiteEntries ((.text "session_id", .text id) :: snapshot.toEntries))) := by
  unfold of sent at well ⊢
  dsimp only at well ⊢
  split at well
  · rename_i sendable
    rw [if_pos sendable]
    rfl
  · cases well

theorem options_of_ok : (of (.ok (.screen id snapshot))).sent.body.field? "options" =
    some (.ofList (snapshot.options.mapIdx optionEntry)) := by
  rw [body_of_ok well]
  refine Eq.trans (b := some (Value.finite _)) rfl (congrArg some ?_)
  rw [finite_ofList]
  refine congrArg Value.ofList (List.ext_getElem? fun i => ?_)
  rw [List.getElem?_map, List.getElem?_mapIdx, List.getElem?_mapIdx, Option.map_map]
  rfl

theorem carries_of_ok : (of (.ok (.screen id snapshot))).sent.Carries snapshot.log snapshot.cursor := by
  unfold Carries
  rw [body_of_ok well]
  refine ⟨?_, rfl⟩
  refine Eq.trans (b := some (Value.finite _)) rfl (congrArg some ?_)
  rw [finite_ofList, List.map_map]
  exact congrArg Value.ofList (List.map_congr_left fun line _ => finite_toValue line)

end Response

theorem Intake.Lawful.status_of_unread {intake : Intake} (lawful : intake.Lawful) {r : Request}
    {problem : Problem} (unread : intake r = .error problem) :
    (Response.of (.error problem)).sent.status = problem.status := by
  have lost : Text.holdsHalf "Not Found" = false := by decide +kernel
  have other : Text.holdsHalf "Method Not Allowed" = false := by decide +kernel
  rcases lawful.refusal unread with rfl | rfl | rfl
  · exact congrArg Response.status (Response.sent_of_text lost)
  · exact congrArg Response.status (Response.sent_of_text other)
  · rfl

theorem Service.answer_of_read {intake : Intake} {r : Request} {call : Call} (read : intake r = .ok call)
    (s : Service) (fresh : Fresh) : s.answer intake fresh r = s.perform fresh call := by
  unfold answer
  rw [read]

/-- A request that is read gets what its call is answered. -/
theorem respond_of_read {intake : Intake} (lawful : intake.Lawful) {r : Request} {call : Call}
    (read : intake r = .ok call) (s : Service) (fresh : Fresh) :
    respond intake s fresh r =
      ((Response.of (s.perform fresh call).1).sent, (s.perform fresh call).2) := by
  unfold respond
  rw [Service.answer_of_read read]
  dsimp only
  rw [if_neg (lawful.verb read)]

end Api

end Gamebook
