import Gamebook.Proofs.Play.Passage
import Gamebook.Proofs.Session.Run

/-! How a session opens.

A session starts where it already is: its first state stands at the entry, and the start goes there
without a fare. So the story is told, and then the entry is arrived at, unless arrivals at the site where
one stands are suppressed: these leave out the first one too.
-/

set_option autoImplicit false

namespace Gamebook

open Play

def Setting.story (s : Setting) (state : State) : Except Fault (List Happening) :=
  if s.script.entry.story.isEmpty then .ok []
  else do
    let text ← Template.fill s.script s.config.text state (.text s.script.entry.story)
    return [.said (.of text [LineType.normal.name])]

namespace Play

variable {s : Setting}

theorem outcome_story (w : World) :
    let telling := onlyIf (!s.script.entry.story.isEmpty)
      (narrate s (.text s.script.entry.story) [LineType.normal.name])
    match s.story w.game.state with
    | .error fault => outcome telling w = (.error (.fault fault), w)
    | .ok told => ∃ u, outcome telling w = (.ok (), u) ∧ w.game.Grows told u.game ∧
        u.game.state = w.game.state ∧ u.game.dice = w.game.dice ∧ u.registry = w.registry ∧
        told.filterMap Happening.arrival? = [] := by
  intro telling
  unfold Setting.story
  by_cases none : s.script.entry.story.isEmpty = true
  · rw [if_pos none]
    refine ⟨w, ?_, .refl _, rfl, rfl, rfl, rfl⟩
    simp only [telling, none]
    rfl
  · rw [if_neg none]
    have given : (!s.script.entry.story.isEmpty) = true := by simpa using none
    simp only [telling, given, onlyIf_true, narrate]
    rw [(reads_fill s _ w).outcome_bind]
    cases Template.fill s.script s.config.text w.game.state (.text s.script.entry.story) with
    | error fault => rfl
    | ok text => exact ⟨_, rfl, w.game.grows_say _ _, rfl, rfl, rfl, rfl⟩

theorem outcome_start (perform : Action → Play Unit) {entry : Site}
    (found : s.script.findSite? s.script.entry.site = some entry) {w : World} (here : w.game.state.site = entry.id) :
    match s.story w.game.state with
    | .error fault => outcome (start s perform) w = (.error (.fault fault), w)
    | .ok told => ∃ u, u.game.history = w.game.history ++ (told ++ [.moved entry.id]) ∧
        u.game.state = w.game.state ∧ u.game.dice = w.game.dice ∧ u.registry = w.registry ∧
        told.filterMap Happening.arrival? = [] ∧
        outcome (start s perform) w =
          outcome (welcome s perform entry (!s.config.travel.suppressSelfArrival)) u := by
  have telling := outcome_story (s := s) w
  have known : s.script.site (.text s.script.entry.site) = .ok entry := by
    rw [Script.site_text, found]
  unfold start
  rw [outcome_bind, goTo_of_found known]
  cases story : s.story w.game.state with
  | error fault =>
    rw [story] at telling
    rw [telling]
  | ok told =>
    rw [story] at telling
    obtain ⟨v, run, grown, state, dice, registry, quiet⟩ := telling
    refine ⟨{ v with game := v.game.moveTo entry.id }, ?_, ?_, dice, registry, quiet, ?_⟩
    · rw [← List.append_assoc, ← grown.history]
      rfl
    · change v.game.state.setSite entry.id = _
      rw [state, ← here]
      rfl
    · rw [run]
      dsimp only
      rw [outcome_passage]
      have same : (v.game.state.site == entry.id) = true := by
        rw [state, here]
        exact beq_self_eq_true _
      rw [Setting.arrives, same, Bool.and_true]
      rfl

/-- What a welcome leaves, however it ends: what the selected event did, and then what was shown. -/
theorem welcome_of_selected {perform : Action → Play Unit}
    (performed : ∀ action, Obeys (Unfolds s) (perform action)) {site : Site} {u : World}
    {event? : Option Event} {left : Dice}
    (selected : Event.select site.events u.game.dice = .ok (event?, left))
    {answer : Except Stop Unit} {x : World}
    (fired : outcome (fire s perform event?) (u.selected site left) = (answer, x)) :
    let went := outcome (welcome s perform site true) u
    (∀ stop, answer = .error stop → went = (.error stop, x)) ∧
      (answer = .ok () →
        went = outcome (refresh s true (x.game.revision == u.game.revision)) x) ∧
      went.2.game.state = x.game.state ∧
      ∃ happened ending, (u.selected site left).game.Grows happened x.game ∧
        went.2.game.history = u.game.history ++ .arrived site.id :: (happened ++ ending) ∧
        ending.filterMap Happening.arrival? = [] := by
  intro went
  have run : went = _ := outcome_welcome site u
  rw [selected] at run
  dsimp only at run
  rw [fired] at run
  obtain ⟨happened, -, grown⟩ := ((Unfolds.rules s).fire performed event?).of_outcome fired
  have history : x.game.history = u.game.history ++ .arrived site.id :: happened := by
    rw [grown.history]
    exact List.append_assoc _ _ _
  cases answer with
  | error stop =>
    refine ⟨fun _ same => ?_, by simp, by rw [run], happened, [], grown, ?_, rfl⟩
    · cases same
      exact run
    · rw [run, List.append_nil]
      exact history
  | ok _ =>
    obtain ⟨ending, grows, none, still⟩ :=
      grows_refresh (s := s) (x.game.revision == u.game.revision) x
    dsimp only at run
    rw [← run] at grows still
    refine ⟨by simp, fun _ => run, still, happened, ending, grown, ?_, none⟩
    rw [grows.history, history, List.append_assoc, List.cons_append]

/-- A start tells the story, or stops there and leaves nothing behind. Then the event is selected, with
the dice that were given, that an arrival at the entry selects, and it is all that changes the state;
it is shown what the event leaves. Where arrivals at the own site are suppressed no event fires, and the
state stays as it is. -/
theorem start_arrives {source : Source} {config : Config} {cost : Option CostPolicy}
    (ready : Setting.of source config cost = .ok s) (registry : Registry Routine) (dice : Dice)
    (depth : Nat) :
    let w := s.newWorld registry dice
    let started := outcome (start s (dispatch s depth)) w
    (∀ fault, s.story w.game.state = .error fault → started = (.error (.fault fault), w)) ∧
      ∀ told, s.story w.game.state = .ok told →
        ∃ entry u, s.script.findSite? s.script.entry.site = some entry ∧
          u.game.history = told ++ [.moved entry.id] ∧ u.game.state = w.game.state ∧
          u.game.dice = dice ∧ u.registry = registry ∧
          (s.config.travel.suppressSelfArrival = false →
            (∀ fault, Event.select entry.events dice = .error fault →
                started = (.error (.fault fault),
                  { u with game := u.game.record (.arrived entry.id) })) ∧
              ∀ event? left, Event.select entry.events dice = .ok (event?, left) →
                let fired := outcome (fire s (dispatch s depth) event?) (u.selected entry left)
                (∀ stop, fired.1 = .error stop → started = (.error stop, fired.2)) ∧
                  (fired.1 = .ok () → started =
                    outcome (refresh s true (fired.2.game.revision == u.game.revision)) fired.2) ∧
                  started.2.game.state = fired.2.game.state ∧
                  ∃ happened ending, (u.selected entry left).game.Grows happened fired.2.game ∧
                    started.2.game.history = told ++
                      .moved entry.id :: .arrived entry.id :: (happened ++ ending) ∧
                    (told ++ ending).filterMap Happening.arrival? = []) ∧
          (s.config.travel.suppressSelfArrival = true →
            started = outcome (refresh s true true) u ∧ started.2.game.state = w.game.state ∧
              started.2.game.history.filterMap Happening.arrival? = []) := by
  intro w started
  obtain ⟨-, -, -, ⟨entry, found⟩, -⟩ := Setting.of_eq_ok ready
  have here : w.game.state.site = entry.id := (Script.id_of_findSite? found).symm
  have opens := outcome_start (dispatch s depth) found here
  constructor
  · intro fault untold
    rw [untold] at opens
    exact opens
  · intro told story
    rw [story] at opens
    obtain ⟨u, history, state, same, shared, quiet, run⟩ := opens
    have begun : u.game.history = told ++ [.moved entry.id] := history
    refine ⟨entry, u, found, begun, state, same, shared, fun arrives => ?_, fun suppressed => ?_⟩
    · rw [arrives, Bool.not_false] at run
      constructor
      · intro fault undrawn
        have drawn : Event.select entry.events u.game.dice = .error fault := same ▸ undrawn
        rw [outcome_welcome, drawn] at run
        exact run
      · intro event? left selected fired
        have drawn : Event.select entry.events u.game.dice = .ok (event?, left) := same ▸ selected
        have leaves := welcome_of_selected ((Unfolds.law s).dispatch depth) drawn
          (Eq.refl (fired.1, fired.2))
        rw [← run] at leaves
        obtain ⟨stops, shows, changed, happened, ending, grown, whole, none⟩ := leaves
        refine ⟨stops, shows, changed, happened, ending, grown, ?_, ?_⟩
        · rw [begun] at whole
          simpa using whole
        · rw [List.filterMap_append, quiet, none]
          rfl
    · rw [suppressed, Bool.not_true, outcome_welcome_quiet] at run
      obtain ⟨ending, grown, none, still⟩ := grows_refresh (s := s) true u
      rw [← run] at grown still
      refine ⟨run, still.trans state, ?_⟩
      have whole : started.2.game.history = told ++ [.moved entry.id] ++ ending := by
        rw [← begun]
        exact grown.history
      rw [whole, List.filterMap_append, List.filterMap_append, quiet, none]
      rfl

end Play

def Script.foggyFord : Script where
  sites := [{ id := "ford", name := "Ford", events := [{ id := "fog", text := "Fog rises." }] }]
  events := []
  entry := { site := "ford", story := "You wake at the $site." }

def Setting.foggyFord (suppress : Bool) : Setting where
  script := .foggyFord
  config := { travel := { suppressSelfArrival := suppress } }
  cost := .flat 1 10

theorem Play.start_arrives_foggyFord :
    let s := Setting.foggyFord
    let source := Source.of .foggyFord Routine.builtin
    let started suppress :=
      outcome (start (s suppress) (dispatch (s suppress) 1)) ((s suppress).newWorld .empty (.ofList []))
    Setting.of source (s false).config none = .ok (s false) ∧
      Setting.of source (s true).config none = .ok (s true) ∧
      (∃ told rest, (started false).2.game.history =
        told ++ .moved "ford" :: .arrived "ford" :: rest) ∧
      (started true).2.game.history.filterMap Happening.arrival? = [] := by
  intro s source started
  have ready : Setting.of source (s false).config none = .ok (s false) := rfl
  have strict : Setting.of source (s true).config none = .ok (s true) := rfl
  have told (suppress : Bool) : ∃ told, (s suppress).story
      ((s suppress).newWorld .empty (.ofList [])).game.state = .ok told := by
    have well : ((s suppress).story
        ((s suppress).newWorld .empty (.ofList [])).game.state).isOk = true := by
      cases suppress <;> decide +kernel
    cases story : (s suppress).story ((s suppress).newWorld .empty (.ofList [])).game.state with
    | error fault =>
      rw [story] at well
      cases well
    | ok told => exact ⟨told, rfl⟩
  have fog : ∃ event?, Event.select Script.foggyFord.sites[0].events (.ofList []) =
      .ok (event?, .ofList []) := ⟨_, rfl⟩
  refine ⟨ready, strict, ?_, ?_⟩
  · obtain ⟨_, opens⟩ := start_arrives ready .empty (.ofList []) 1
    obtain ⟨told, story⟩ := told false
    obtain ⟨entry, u, found, -, -, -, -, arrives, -⟩ := opens told story
    cases (show (s false).script.findSite? "ford" = some Script.foggyFord.sites[0] from
      rfl).symm.trans found
    obtain ⟨event?, selected⟩ := fog
    obtain ⟨-, -, -, happened, ending, -, history, -⟩ := (arrives rfl).2 event? _ selected
    exact ⟨told, _, history⟩
  · obtain ⟨_, opens⟩ := start_arrives strict .empty (.ofList []) 1
    obtain ⟨told, story⟩ := told true
    obtain ⟨_, _, -, -, -, -, -, -, suppressed⟩ := opens told story
    exact (suppressed rfl).2.2

end Gamebook
