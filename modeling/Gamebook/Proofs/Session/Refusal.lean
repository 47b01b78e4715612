import Gamebook.Proofs.Script.Flaw
import Gamebook.Proofs.Session.Whereabouts

/-! Requests that are refused.

What can be wrong with a request is looked for before anything is done: ids, keys and indices before
they are used, all of an action before its first effect, all texts of the options before the panel is
replaced, the days of a leg before its money. So a request that is refused leaves everything as it was.
-/

set_option autoImplicit false

namespace Gamebook

namespace Value

/-- Whether a value can be looked up; lists and mappings cannot. -/
def isKey : Value → Bool
  | .list _ | .mapping _ => false
  | _ => true

/-- Whether a value is a whole number, or a real number with nothing after the point. -/
def isWhole : Value → Bool
  | .int _ => true
  | .float x => ((Binary.ofFloat? x).bind Binary.toInt?).isSome
  | _ => false

end Value

namespace Script

variable {script : Script} {id : Value}

theorem event_of_absent (absent : ∀ event ∈ script.events, id ≠ .text event.id) :
    script.event id = .error (if id.isKey then .unknownEvent id else .notKey) := by
  cases id with
  | text name =>
    have missing : script.findEvent? name = none := by
      refine List.find?_eq_none.2 fun event listed same => absent event listed ?_
      rw [eq_of_beq same]
    rw [event_text, missing]
    rfl
  | _ => rfl

theorem site_of_absent (absent : ∀ site ∈ script.sites, id ≠ .text site.id) :
    script.site id = .error (if id.isKey then .unknownSite id else .notKey) := by
  cases id with
  | text name =>
    have missing : script.findSite? name = none := by
      refine List.find?_eq_none.2 fun site listed same => absent site listed ?_
      rw [eq_of_beq same]
    rw [site_text, missing]
    rfl
  | _ => rfl

theorem exists_findSite? {site : Site} (listed : site ∈ script.sites) :
    ∃ first, script.findSite? site.id = some first := by
  apply Option.isSome_iff_exists.1
  rw [findSite?, List.find?_isSome]
  exact ⟨site, listed, beq_self_eq_true site.id⟩

end Script

theorem Counter.read_of_other {key : Value} (other : ∀ counter : Counter, key ≠ .text counter.name) :
    Counter.read key = .error (.invalidKey key) := by
  cases key with
  | text name =>
    have unknown : ofName? name = none := by
      refine List.find?_eq_none.2 fun counter _ same => other counter ?_
      rw [eq_of_beq same]
    simp only [read, unknown]
  | _ => rfl

theorem Counter.read_name (counter : Counter) : Counter.read (.text counter.name) = .ok counter := by
  simp only [read, ofName?_name]

theorem State.readDelta_of_not_isWhole {delta : Value} (fractional : delta.isWhole = false) :
    State.readDelta delta = .error (.fractionalDelta delta) := by
  cases delta with
  | int n => cases fractional
  | float x =>
    have none : (Binary.ofFloat? x).bind Binary.toInt? = none := by
      simpa [Value.isWhole] using fractional
    simp only [readDelta, none]
  | _ => rfl

namespace Game

variable (g : Game)

theorem mutate_of_other {key : Value} (other : ∀ counter : Counter, key ≠ .text counter.name)
    (delta reason : Value) : g.mutate key delta reason = .error (.invalidKey key) := by
  unfold mutate State.mutate
  rw [Counter.read_of_other other]
  rfl

theorem mutate_of_not_isWhole (counter : Counter) {delta : Value}
    (fractional : delta.isWhole = false) (reason : Value) :
    g.mutate (.text counter.name) delta reason = .error (.fractionalDelta delta) := by
  unfold mutate State.mutate
  rw [Counter.read_name, State.readDelta_of_not_isWhole fractional]
  rfl

end Game

namespace Play

variable {α β : Type} {s : Setting} {w : World} {fault : Fault}

def Refused (play : Play α) (w : World) (fault : Fault) : Prop :=
  outcome play w = (.error (.fault fault), w)

namespace Refused

theorem liftFault {x : Except Fault α} (failed : x = .error fault) :
    Refused (liftFault x) w fault := by
  rw [failed]
  rfl

theorem bind {play : Play α} (first : Refused play w fault) (next : α → Play β) :
    Refused (play >>= next) w fault := by
  unfold Refused at first ⊢
  rw [outcome_bind, first]

theorem later {play : Play α} {a : α} (first : outcome play w = (.ok a, w)) {next : α → Play β}
    (rest : Refused (next a) w fault) : Refused (play >>= next) w fault := by
  unfold Refused at rest ⊢
  rw [outcome_bind, first]
  exact rest

variable {perform : Action → Play Unit}

theorem triggerId {id : Value} (absent : ∀ event ∈ s.script.events, id ≠ .text event.id) :
    Refused (triggerId s perform id) w (if id.isKey then .unknownEvent id else .notKey) :=
  (liftFault (Script.event_of_absent absent)).bind _

theorem goTo {id : Value} (absent : ∀ site ∈ s.script.sites, id ≠ .text site.id) (instantly : Bool) :
    Refused (goTo s perform id instantly) w (if id.isKey then .unknownSite id else .notKey) :=
  (liftFault (Script.site_of_absent absent)).bind _

theorem pay {cost : Cost} (backward : cost.days < 0) :
    Refused (pay s cost) w (.backwardDays cost.days) := by
  have given : (cost.days != 0) = true := by
    rw [bne_iff_ne]
    omega
  have stopped : Refused (attempt (·.pass cost.days)) w (.backwardDays cost.days) := by
    unfold Refused
    rw [outcome_attempt]
    unfold Game.pass State.advance
    rw [if_pos backward]
    rfl
  unfold Play.pay
  rw [given]
  exact stopped.bind _

theorem goTo_backward {departure arrival : Site}
    (here : s.script.findSite? w.game.state.site = some departure)
    (there : s.script.findSite? arrival.id = some arrival)
    (backward : (s.cost departure arrival).days < 0) :
    Refused (Play.goTo s perform (.text arrival.id) false) w
      (.backwardDays (s.cost departure arrival).days) := by
  have found : outcome (Play.liftFault (s.script.site (.text arrival.id))) w = (.ok arrival, w) := by
    rw [Script.site_text, there]
    rfl
  have left : outcome (Play.liftFault (s.script.site (.text w.game.state.site))) w =
      (.ok departure, w) := by
    rw [Script.site_text, here]
    rfl
  have pays : Refused (payLeg s w.game.state.site arrival) w
      (.backwardDays (s.cost departure arrival).days) := later left (pay backward)
  exact later found (later (outcome_game w) (pays.bind _))

theorem mutate {key delta reason : Value} (failed : w.game.mutate key delta reason = .error fault) :
    Refused (mutate s key delta reason) w fault := by
  unfold Refused
  rw [outcome_mutate, failed]

theorem choose {index : Int} (outside : ¬ (0 ≤ index ∧ index < w.game.panel.length)) :
    Refused (choose perform index) w (.noSuchOption index w.game.panel.length) := by
  have missing : (if 0 ≤ index then w.game.panel[index.toNat]? else none) = none := by
    by_cases positive : 0 ≤ index
    · rw [if_pos positive, List.getElem?_eq_none_iff]
      omega
    · exact if_neg positive
  refine later (outcome_game w) ?_
  dsimp only
  rw [missing]
  rfl

theorem dispatch {name : String} (unknown : s.knowsRegistry = true → w.registry.get? name = none)
    (depth : Nat) : Refused (dispatch s (depth + 1) (.named name)) w (.unknownAction name) := by
  have absent : Refused (known s name) w (.unknownAction name) := by
    unfold Refused
    rw [outcome_known]
    split
    · rename_i knows
      rw [unknown knows]
      rfl
    · rfl
  exact absent.bind _

theorem offer {origin : Origin} {choices : List Choice}
    (failed : choices.mapM (fillChoice s w.game.state) = .error fault) :
    Refused (offer s origin choices) w fault := by
  unfold Refused
  rw [outcome_offer, failed]

end Refused

end Play

namespace Setting

variable {s : Setting}

theorem stands_after {source : Source} {config : Config} {cost : Option CostPolicy}
    (ready : Setting.of source config cost = .ok s) (registry : Registry Routine) (dice : Dice)
    (operations : List Operation) :
    (s.after (s.newWorld registry dice) operations).game.state.Stands s := by
  obtain ⟨chronicle, grown⟩ := s.chronicle registry dice operations
  rw [grown.state]
  have whole := chronicle
  rw [← List.nil_append (Game.history _), ← List.append_nil ([] ++ _)] at whole
  exact whole.precedes_replay.stands (stands_newGame ready dice)

open Play in
/-- Whatever has been done with a session before, a request that is refused changes nothing: neither
the state, the log, the panel and its revision, the state last shown or the draws, nor the registry. -/
theorem refusals_change_nothing {source : Source} {config : Config} {cost : Option CostPolicy}
    (ready : Setting.of source config cost = .ok s) (registry : Registry Routine) (dice : Dice)
    (operations : List Operation) (depth : Nat) :
    let w := s.after (s.newWorld registry dice) operations
    let refuses command := Refused (within s (depth + 1) command) w
    (∀ id, (∀ event ∈ s.script.events, id ≠ .text event.id) →
        refuses (.trigger id) (if id.isKey then .unknownEvent id else .notKey)) ∧
      (∀ id instantly, (∀ site ∈ s.script.sites, id ≠ .text site.id) →
        refuses (.goTo id instantly) (if id.isKey then .unknownSite id else .notKey)) ∧
      (∃ departure, s.script.findSite? w.game.state.site = some departure ∧
        ∀ arrival, s.script.findSite? arrival.id = some arrival →
          (s.cost departure arrival).days < 0 →
          refuses (.goTo (.text arrival.id) false)
            (.backwardDays (s.cost departure arrival).days)) ∧
      (∀ key delta reason, (∀ counter : Counter, key ≠ .text counter.name) →
        refuses (.mutate key delta reason) (.invalidKey key)) ∧
      (∀ (counter : Counter) delta reason, delta.isWhole = false →
        refuses (.mutate (.text counter.name) delta reason) (.fractionalDelta delta)) ∧
      (∀ index : Int, ¬ (0 ≤ index ∧ index < w.game.panel.length) →
        refuses (.choose index) (.noSuchOption index w.game.panel.length)) ∧
      (∀ name, (s.knowsRegistry = true → w.registry.get? name = none) →
        refuses (.dispatch (.text name)) (.unknownAction name)) ∧
      (∀ data, Action.Flawed data → ∃ fault, refuses (.dispatch data) fault) ∧
      ∀ choices choice fault, choice ∈ choices →
        Template.fill s.script s.config.text w.game.state choice.text = .error fault →
        ∃ other ∈ choices, ∃ first,
          Template.fill s.script s.config.text w.game.state other.text = .error first ∧
            refuses (.offer choices) first := by
  intro w refuses
  refine ⟨?_, ?_, ?_, ?_, ?_, ?_, ?_, ?_, ?_⟩
  · intro id absent
    exact (Refused.triggerId absent).bind _
  · intro id instantly absent
    exact (Refused.goTo absent instantly).bind _
  · obtain ⟨site, listed, own⟩ := (stands_after ready registry dice operations).listed
    obtain ⟨departure, here⟩ := Script.exists_findSite? listed
    rw [own] at here
    refine ⟨departure, here, fun arrival there backward => ?_⟩
    exact (Refused.goTo_backward here there backward).bind _
  · intro key delta reason other
    exact (Refused.mutate (w.game.mutate_of_other other delta reason)).bind _
  · intro counter delta reason fractional
    exact (Refused.mutate (w.game.mutate_of_not_isWhole counter fractional reason)).bind _
  · intro index outside
    exact (Refused.choose outside).bind _
  · intro name unknown
    exact (Refused.dispatch unknown depth).bind _
  · intro data flawed
    obtain ⟨fault, unread⟩ := flawed.unread
    exact ⟨fault, (Refused.liftFault unread).bind _⟩
  · intro choices choice fault member failed
    have unfilled : fillChoice s w.game.state choice = .error fault := by
      rw [fillChoice, failed]
      rfl
    obtain ⟨first, stopped⟩ := exists_mapM_eq_error member unfilled
    obtain ⟨other, listed, refused⟩ := exists_of_mapM_eq_error stopped
    -- an option is left unfilled only by its text
    rcases bind_eq_error refused with refused | ⟨_, _, refused⟩
    · exact ⟨other, listed, first, refused, (Refused.offer stopped).bind _⟩
    · cases refused

open Play Value in
theorem refusals_change_nothing_twoTowns :
    let s : Setting := { twoTowns with cost := .flat (-1) 0 }
    let w := s.after (s.newWorld Routine.builtin (.ofList [])) [{ command := .start }]
    let refuses command := Refused (within s 1 command) w
    let sing := ofEntries [(.text "text", .text "You sing.")]
    let idle := ofEntries [(.text "text", .text "Rest"), (.text "action", ofList [sing, .int 3])]
    Setting.of (.of .twoTowns Routine.builtin) {} (some (.flat (-1) 0)) = .ok s ∧
      refuses (.trigger "nobody") (.unknownEvent "nobody") ∧
      refuses (.goTo "nowhere" true) (.unknownSite "nowhere") ∧
      refuses (.goTo "mill" false) (.backwardDays (-1)) ∧
      refuses (.mutate "luck" (.int 1) .null) (.invalidKey "luck") ∧
      refuses (.mutate "hp" "one" .null) (.fractionalDelta "one") ∧
      refuses (.choose 1) (.noSuchOption 1 1) ∧
      refuses (.dispatch "sleep") (.unknownAction "sleep") ∧
      (∃ fault, refuses
        (.dispatch (ofList [sing, ofEntries [(.text "options", ofList [idle])]])) fault) ∧
      refuses (.offer [⟨"Stay", .named "stay"⟩, ⟨.null, .named "rest"⟩]) .notText := by
  intro s w refuses sing idle
  have ready : Setting.of (.of .twoTowns Routine.builtin) {} (some (.flat (-1) 0)) = .ok s := rfl
  obtain ⟨trigger, goTo, ⟨departure, _, backward⟩, mutate, fraction, choose, dispatch, flawed, offer⟩ :=
    refusals_change_nothing ready Routine.builtin (.ofList []) [{ command := .start }] 0
  have outside : refuses (.choose 1) (.noSuchOption 1 w.game.panel.length) :=
    choose 1 (by decide +kernel)
  have one : w.game.panel.length = 1 := by decide +kernel
  rw [one] at outside
  have nobody : refuses (.trigger "nobody") (.unknownEvent "nobody") :=
    trigger "nobody" (List.forall_mem_nil _)
  have nowhere : refuses (.goTo "nowhere" true) (.unknownSite "nowhere") :=
    goTo "nowhere" true (by simp [s, twoTowns, Script.twoTowns])
  have there : s.script.findSite? "mill" = some Script.twoTowns.sites[1] := rfl
  have back : refuses (.goTo "mill" false) (.backwardDays (-1)) :=
    backward Script.twoTowns.sites[1] there (Int.negSucc_lt_zero 0)
  have luck : refuses (.mutate "luck" (.int 1) .null) (.invalidKey "luck") :=
    mutate "luck" (.int 1) .null fun counter => by cases counter <;> simp [Counter.name]
  have word : refuses (.mutate "hp" "one" .null) (.fractionalDelta "one") :=
    fraction .hp "one" .null rfl
  have sleep : refuses (.dispatch "sleep") (.unknownAction "sleep") :=
    dispatch "sleep" fun _ => by decide +kernel
  have flaw : Action.Flawed (ofList [sing, ofEntries [(.text "options", ofList [idle])]]) := by
    refine .effect (List.mem_cons_of_mem _ List.mem_cons_self) (.option List.mem_cons_self ?_)
    refine .action rfl (.effect (List.mem_cons_of_mem _ List.mem_cons_self) (.shape ?_))
    intro mark kind argument same
    cases same
  have filled : Template.fill s.script s.config.text w.game.state "Stay" = .ok "Stay" := rfl
  have empty : Template.fill s.script s.config.text w.game.state .null = .error .notText := rfl
  obtain ⟨other, listed, first, failed, refused⟩ :=
    offer [⟨"Stay", .named "stay"⟩, ⟨.null, .named "rest"⟩] ⟨.null, .named "rest"⟩ _ (by simp) empty
  have notText : first = .notText := by
    simp only [List.mem_cons, List.not_mem_nil, or_false] at listed
    rcases listed with rfl | rfl
    · rw [filled] at failed
      cases failed
    · exact (Except.error.inj (empty.symm.trans failed)).symm
  rw [notText] at refused
  exact ⟨ready, nobody, nowhere, back, luck, word, outside, sleep, flawed _ flaw, refused⟩

end Setting

end Gamebook
