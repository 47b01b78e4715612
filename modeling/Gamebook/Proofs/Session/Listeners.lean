import Gamebook.Proofs.Number.Exact
import Gamebook.Proofs.Session.Refusal
import Gamebook.Store

/-! What a store comes to, and what its listeners hear.

Whether a step is accepted depends on the step alone. So the counters are sums over the accepted steps,
and what a listener hears of one of them is the sum up to it.
-/

set_option autoImplicit false

namespace Gamebook

/-- A value is this integer: as such, or as a real number. A truth value is none. -/
def Value.IsInteger (v : Value) (n : Int) : Prop := v = .int n ∨ ∃ x, v = .float x ∧ IsExactly x n

theorem State.readDelta_eq_ok_iff {delta : Value} {n : Int} :
    readDelta delta = .ok n ↔ delta.IsInteger n := by
  unfold Value.IsInteger
  cases delta with
  | int m => simp [readDelta]
  | float x =>
    have exact : (Binary.ofFloat? x).bind Binary.toInt? = some n ↔ IsExactly x n := by
      unfold IsExactly
      rw [Option.bind_eq_some_iff, Option.map_eq_some_iff]
      exact exists_congr fun b => and_congr_right fun _ => Binary.toInt?_eq_some_iff
    rw [readDelta]
    simp only [reduceCtorEq, Value.float.injEq, exists_eq_left', false_or, ← exact]
    cases (Binary.ofFloat? x).bind Binary.toInt? <;> simp
  | _ => simp [readDelta]

theorem Counter.read_eq_ok_iff {key : Value} {counter : Counter} :
    read key = .ok counter ↔ key = .text counter.name := by
  constructor
  · intro known
    by_contra other
    have none : ∀ c : Counter, key ≠ .text c.name := by
      rintro c rfl
      rw [read_name] at known
      cases known
      exact other rfl
    rw [read_of_other none] at known
    cases known
  · rintro rfl
    exact read_name counter

structure Change where
  counter : Counter
  amount : Int
  reason : Value

namespace Change

def total (counter : Counter) (changes : List Change) : Int :=
  (changes.map fun c => if c.counter = counter then c.amount else 0).sum

/-- A change, with what its counter reads right after it. -/
def mutation (c : Change) (value : Int) : Mutation := ⟨c.counter, c.amount, value, c.reason⟩

/-- What somebody hears who listens to all of some changes. -/
def tell (status : Status) : List Change → List Mutation
  | [] => []
  | c :: rest =>
    c.mutation (status.get c.counter + c.amount) :: tell (status.add c.counter c.amount) rest

theorem total_append (counter : Counter) (first rest : List Change) :
    total counter (first ++ rest) = total counter first + total counter rest := by
  unfold total
  rw [List.map_append, List.sum_append]

theorem total_cons (counter : Counter) (c : Change) (rest : List Change) :
    total counter (c :: rest) = (if c.counter = counter then c.amount else 0) + total counter rest :=
  List.sum_cons

theorem length_tell (status : Status) (changes : List Change) :
    (tell status changes).length = changes.length := by
  induction changes generalizing status with
  | nil => rfl
  | cons c rest ih => exact congrArg (· + 1) (ih _)

/-- Each change is heard with the sum up to it. -/
theorem getElem?_tell (status : Status) (changes : List Change) (k : Nat) :
    (tell status changes)[k]? = changes[k]?.map fun c =>
      c.mutation (status.get c.counter + total c.counter (changes.take (k + 1))) := by
  induction changes generalizing status k with
  | nil => rfl
  | cons c rest ih =>
    cases k with
    | zero =>
      have alone : total c.counter ((c :: rest).take (0 + 1)) = c.amount := by
        rw [List.take_succ_cons, total_cons, if_pos rfl]
        exact Int.add_zero c.amount
      rw [tell, List.getElem?_cons_zero, List.getElem?_cons_zero, Option.map_some, alone]
    | succ k =>
      rw [tell, List.getElem?_cons_succ, List.getElem?_cons_succ, ih]
      refine congrArg (Option.map · _) (funext fun d => congrArg d.mutation ?_)
      rw [Status.get_add, List.take_succ_cons, total_cons, Int.add_assoc]

end Change

namespace Store

variable {τ : Type}

inductive Step (τ : Type) where
  | subscribe (listener : τ)
  | mutate (key delta reason : Value)
  | setSite (site : String)
  | advance (days : Int)

namespace Step

def Accepted : Step τ → Prop
  | .mutate key delta _ => ∃ counter : Counter, ∃ n, key = .text counter.name ∧ delta.IsInteger n
  | .advance days => 0 ≤ days
  | _ => True

/-- The change that a step makes, if it is an accepted mutation. -/
def change? : Step τ → Option Change
  | .mutate key delta reason =>
    match Counter.read key, State.readDelta delta with
    | .ok counter, .ok amount => some ⟨counter, amount, reason⟩
    | _, _ => none
  | _ => none

def listener? : Step τ → Option τ
  | .subscribe listener => some listener
  | _ => none

def site? : Step τ → Option String
  | .setSite site => some site
  | _ => none

/-- The days that a step makes pass. -/
def days : Step τ → Int
  | .advance days => if 0 ≤ days then days else 0
  | _ => 0

theorem change?_eq_some_iff {step : Step τ} {c : Change} :
    step.change? = some c ↔
      ∃ key delta, step = .mutate key delta c.reason ∧ key = .text c.counter.name ∧
        delta.IsInteger c.amount := by
  cases step with
  | mutate key delta reason =>
    simp only [← State.readDelta_eq_ok_iff, ← Counter.read_eq_ok_iff, change?]
    constructor
    · intro accepted
      split at accepted
      · rename_i counter amount known whole
        cases accepted
        exact ⟨key, delta, rfl, known, whole⟩
      · cases accepted
    · rintro ⟨key, delta, same, known, whole⟩
      cases same
      rw [known, whole]
  | _ => simp [change?]

theorem not_accepted_of_change? {key delta reason : Value}
    (none : (mutate (τ := τ) key delta reason).change? = none) :
    ¬(mutate (τ := τ) key delta reason).Accepted := by
  rintro ⟨counter, n, known, whole⟩
  have accepted : (mutate (τ := τ) key delta reason).change? = some ⟨counter, n, reason⟩ :=
    change?_eq_some_iff.2 ⟨key, delta, rfl, known, whole⟩
  rw [none] at accepted
  cases accepted

end Step

def take (s : Store τ) : Step τ → Except Fault (List (τ × Mutation) × Store τ)
  | .subscribe listener => .ok ([], s.subscribe listener)
  | .mutate key delta reason => s.mutate key delta reason
  | .setSite site => .ok ([], s.setSite site)
  | .advance days => (s.advance days).map ([], ·)

def next (s : Store τ) (step : Step τ) : Store τ := ((s.take step).map Prod.snd).toOption.getD s

def heard (s : Store τ) (step : Step τ) : List (τ × Mutation) :=
  ((s.take step).map Prod.fst).toOption.getD []

/-- The store after some steps, those left out that are refused. -/
def after (s : Store τ) (steps : List (Step τ)) : Store τ := steps.foldl next s

def told (s : Store τ) : List (Step τ) → List (τ × Mutation)
  | [] => []
  | step :: rest => s.heard step ++ (s.next step).told rest

variable {s t u : Store τ} {step : Step τ} {steps before rest : List (Step τ)}

theorem take_of_change {c : Change} (accepted : step.change? = some c) :
    s.take step = .ok
      (s.listeners.map (·, c.mutation (s.state.status.get c.counter + c.amount)),
        { s with state := { s.state with status := s.state.status.add c.counter c.amount } }) := by
  obtain ⟨key, delta, rfl, known, whole⟩ := Step.change?_eq_some_iff.1 accepted
  have value : (s.state.status.add c.counter c.amount).get c.counter =
      s.state.status.get c.counter + c.amount := by
    rw [Status.get_add, if_pos rfl]
  unfold take mutate State.mutate
  dsimp only
  rw [Counter.read_eq_ok_iff.2 known, State.readDelta_eq_ok_iff.2 whole, ← value]
  rfl

/-- Whether a step is accepted does not depend on the store. -/
theorem take_isOk_iff : (s.take step).isOk = true ↔ step.Accepted := by
  cases step with
  | mutate key delta reason =>
    unfold Step.Accepted
    simp only [← State.readDelta_eq_ok_iff, ← Counter.read_eq_ok_iff]
    change (s.mutate key delta reason).isOk = true ↔ _
    unfold mutate State.mutate
    cases Counter.read key with
    | error fault => exact iff_of_false Bool.false_ne_true fun ⟨_, _, known, _⟩ => nomatch known
    | ok counter =>
      cases State.readDelta delta with
      | error fault => exact iff_of_false Bool.false_ne_true fun ⟨_, _, _, whole⟩ => nomatch whole
      | ok n => exact iff_of_true rfl ⟨counter, n, rfl, rfl⟩
  | advance days =>
    unfold take advance State.advance Step.Accepted
    by_cases backward : days < 0
    · simp only [if_pos backward]
      exact iff_of_false Bool.false_ne_true (Int.not_le.2 backward)
    · simp only [if_neg backward]
      exact iff_of_true rfl (Int.not_lt.1 backward)
  | _ => exact iff_of_true rfl trivial

/-- A step that is refused leaves the store as it is, and nothing is heard of it. -/
theorem next_of_refused (refused : ¬step.Accepted) : s.next step = s ∧ s.heard step = [] := by
  unfold next heard
  cases answer : s.take step with
  | error fault => exact ⟨rfl, rfl⟩
  | ok taken =>
    have accepted : (s.take step).isOk = true := by
      rw [answer]
      rfl
    exact absurd (take_isOk_iff.1 accepted) refused

theorem after_append (s : Store τ) (first rest : List (Step τ)) :
    s.after (first ++ rest) = (s.after first).after rest := List.foldl_append

theorem told_append (s : Store τ) (first rest : List (Step τ)) :
    s.told (first ++ rest) = s.told first ++ (s.after first).told rest := by
  induction first generalizing s with
  | nil => rfl
  | cons step first ih => rw [List.cons_append, told, told, ih, List.append_assoc]; rfl

structure ComesTo (s : Store τ) (steps : List (Step τ)) (t : Store τ) : Prop where
  counters : ∀ counter, t.state.status.get counter =
    s.state.status.get counter + Change.total counter (steps.filterMap Step.change?)
  days : t.state.days = s.state.days + (steps.map Step.days).sum
  site : t.state.site = (steps.filterMap Step.site?).getLastD s.state.site
  listeners : t.listeners = s.listeners ++ steps.filterMap Step.listener?

theorem ComesTo.append (first : ComesTo s before t) (others : ComesTo t rest u) :
    ComesTo s (before ++ rest) u where
  counters counter := by
    rw [others.counters, first.counters, List.filterMap_append, Change.total_append, Int.add_assoc]
  days := by rw [others.days, first.days, List.map_append, List.sum_append, Int.add_assoc]
  site := by
    rw [others.site, first.site, List.filterMap_append]
    simp only [List.getLastD_eq_getLast?, List.getLast?_append]
    cases (rest.filterMap Step.site?).getLast? <;> rfl
  listeners := by rw [others.listeners, first.listeners, List.filterMap_append, List.append_assoc]

theorem next_of_change {c : Change} (accepted : step.change? = some c) :
    s.next step =
      { s with state := { s.state with status := s.state.status.add c.counter c.amount } } := by
  rw [next, take_of_change accepted]
  rfl

theorem next_advance {days : Int} (forward : 0 ≤ days) (s : Store τ) :
    s.next (.advance days) = { s with state := { s.state with days := s.state.days + days } } := by
  have passed : s.state.advance days = .ok { s.state with days := s.state.days + days } :=
    if_neg (Int.not_lt.2 forward)
  have taken : s.take (.advance days) = (s.advance days).map ([], ·) := rfl
  rw [next, taken, advance, passed]
  rfl

theorem comesTo_next (s : Store τ) (step : Step τ) : ComesTo s [step] (s.next step) := by
  have silent (n : Int) : n = n + 0 := (Int.add_zero n).symm
  have nobody (listeners : List τ) : listeners = listeners ++ [] := (List.append_nil listeners).symm
  cases step with
  | subscribe listener => exact ⟨fun _ => silent _, silent _, rfl, rfl⟩
  | setSite site => exact ⟨fun _ => silent _, silent _, rfl, nobody _⟩
  | advance days =>
    by_cases forward : 0 ≤ days
    · have passed : [Step.advance (τ := τ) days].map Step.days = [days] :=
        congrArg ([·]) (if_pos forward)
      rw [next_advance forward]
      refine ⟨fun _ => silent _, ?_, rfl, nobody _⟩
      rw [passed, List.sum_singleton]
    · have still : [Step.advance (τ := τ) days].map Step.days = [0] :=
        congrArg ([·]) (if_neg forward)
      have refused : ¬(Step.advance (τ := τ) days).Accepted := forward
      rw [(next_of_refused refused).1]
      refine ⟨fun _ => silent _, ?_, rfl, nobody _⟩
      rw [still, List.sum_singleton, Int.add_zero]
  | mutate key delta reason =>
    cases change : (Step.mutate key delta reason).change? with
    | some c =>
      rw [next_of_change change]
      refine ⟨fun counter => ?_, silent _, rfl, nobody _⟩
      rw [List.filterMap_cons_some change]
      exact (Status.get_add _ _ _ _).trans (congrArg _ (Int.add_zero _).symm)
    | none =>
      rw [(next_of_refused (Step.not_accepted_of_change? change)).1]
      refine ⟨fun counter => ?_, silent _, rfl, nobody _⟩
      rw [List.filterMap_cons_none change]
      exact silent _

theorem comesTo_after (s : Store τ) (steps : List (Step τ)) : ComesTo s steps (s.after steps) := by
  induction steps generalizing s with
  | nil =>
    exact ⟨fun _ => (Int.add_zero _).symm, (Int.add_zero _).symm, rfl, (List.append_nil _).symm⟩
  | cons step rest ih => exact (comesTo_next s step).append (ih (s.next step))

/-! ### What is heard -/

theorem heard_of_change {c : Change} (accepted : step.change? = some c) :
    s.heard step =
      s.listeners.map (·, c.mutation (s.state.status.get c.counter + c.amount)) := by
  rw [heard, take_of_change accepted]
  rfl

theorem heard_of_no_change (none : step.change? = none) : s.heard step = [] := by
  cases step with
  | mutate key delta reason => exact (next_of_refused (Step.not_accepted_of_change? none)).2
  | advance days =>
    have taken : s.take (.advance days) = (s.advance days).map ([], ·) := rfl
    rw [heard, taken]
    cases s.advance days <;> rfl
  | _ => rfl

theorem status_of_no_change (none : step.change? = none) :
    (s.next step).state.status = s.state.status := by
  apply Status.eq_of_get
  intro counter
  rw [(comesTo_next s step).counters, List.filterMap_cons_none none]
  exact Int.add_zero _

variable [DecidableEq τ]

def heardBy (listener : τ) (log : List (τ × Mutation)) : List Mutation :=
  (log.filter (·.1 = listener)).map (·.2)

theorem heardBy_append (listener : τ) (first rest : List (τ × Mutation)) :
    heardBy listener (first ++ rest) = heardBy listener first ++ heardBy listener rest := by
  rw [heardBy, List.filter_append, List.map_append]
  rfl

theorem heardBy_map (listener : τ) (listeners : List τ) (m : Mutation) :
    heardBy listener (listeners.map (·, m)) = List.replicate (listeners.count listener) m := by
  induction listeners with
  | nil => rfl
  | cons first rest ih =>
    unfold heardBy at ih ⊢
    by_cases same : first = listener
    · subst same
      rw [List.map_cons, List.filter_cons_of_pos (by simp), List.map_cons, ih, List.count_cons_self]
      rfl
    · rw [List.map_cons, List.filter_cons_of_neg (by simpa using same), ih,
        List.count_cons_of_ne same]

/-- A listener hears each change as often as it has subscribed, if it does not subscribe in between. -/
theorem heardBy_told {listener : τ} (steps : List (Step τ))
    (others : listener ∉ steps.filterMap Step.listener?) (s : Store τ) :
    heardBy listener (s.told steps) =
      (Change.tell s.state.status (steps.filterMap Step.change?)).flatMap
        (List.replicate (s.listeners.count listener)) := by
  induction steps generalizing s with
  | nil => rfl
  | cons step rest ih =>
    have apart : listener ∉ [step].filterMap Step.listener? ∧
        listener ∉ rest.filterMap Step.listener? := by
      rw [← List.singleton_append, List.filterMap_append, List.mem_append, not_or] at others
      exact others
    have counted : (s.next step).listeners.count listener = s.listeners.count listener := by
      rw [(comesTo_next s step).listeners, List.count_append, List.count_eq_zero.2 apart.1, Nat.add_zero]
    rw [told, heardBy_append, ih apart.2, counted]
    cases change : step.change? with
    | none =>
      rw [heard_of_no_change change, status_of_no_change change, List.filterMap_cons_none change]
      rfl
    | some c =>
      rw [heard_of_change change, heardBy_map, next_of_change change, List.filterMap_cons_some change,
        Change.tell, List.flatMap_cons]

/-- Who subscribes once hears the changes that are made from then on. -/
theorem heardBy_since {listener : τ} (stranger : listener ∉ s.listeners)
    (early : listener ∉ before.filterMap Step.listener?)
    (late : listener ∉ rest.filterMap Step.listener?) :
    heardBy listener (s.told (before ++ .subscribe listener :: rest)) =
      Change.tell (s.after before).state.status (rest.filterMap Step.change?) := by
  have nothing : heardBy listener (s.told before) = [] := by
    rw [heardBy_told before early, List.count_eq_zero.2 stranger]
    exact List.flatMap_eq_nil_iff.2 fun _ _ => rfl
  have once : ((s.after before).subscribe listener).listeners.count listener = 1 := by
    have others : listener ∉ (s.after before).listeners := by
      rw [(comesTo_after s before).listeners, List.mem_append, not_or]
      exact ⟨stranger, early⟩
    change ((s.after before).listeners ++ [listener]).count listener = 1
    rw [List.count_append, List.count_eq_zero.2 others, List.count_singleton_self]
  rw [told_append, heardBy_append, nothing, List.nil_append]
  change heardBy listener (((s.after before).subscribe listener).told rest) = _
  rw [heardBy_told rest late, once]
  exact List.flatMap_singleton' _

/-- A step is accepted or refused by itself: a mutation if its key names a counter and its delta is an
integer, an integral real number counting as this integer; an advance if its days are not negative; other
steps always. What is refused might as well not have been asked for. A counter is its first value and the
sum of the accepted deltas, the days are the first ones and those that have passed, and the site is the
last that was set. An accepted mutation is told to all who have subscribed by then, in this order, with
what the counter reads after it. A listener who subscribes once hears the mutations that are accepted from
then on, in their order, each with the sum up to it. -/
theorem history_adds_up (state : State) (steps : List (Step τ)) :
    let start : Store τ := ⟨state, []⟩
    let changes : List (Step τ) → List Change := List.filterMap Step.change?
    let subscribers : List (Step τ) → List τ := List.filterMap Step.listener?
    (∀ (s : Store τ) step, (s.take step).isOk = true ↔ step.Accepted) ∧
      (∀ (s : Store τ) key delta reason n, delta.IsInteger n →
        s.mutate key delta reason = s.mutate key (.int n) reason) ∧
      (∀ (step : Step τ) c, step.change? = some c ↔
        ∃ key delta, step = .mutate key delta c.reason ∧ key = .text c.counter.name ∧
          delta.IsInteger c.amount) ∧
      (∀ before step rest, steps = before ++ step :: rest → ¬step.Accepted →
        start.after steps = start.after (before ++ rest) ∧
          start.told steps = start.told (before ++ rest)) ∧
      (∀ counter, (start.after steps).state.status.get counter =
        state.status.get counter + Change.total counter (changes steps)) ∧
      (start.after steps).state.days = state.days + (steps.map Step.days).sum ∧
      (start.after steps).state.site = (steps.filterMap Step.site?).getLastD state.site ∧
      (∀ before step rest c, steps = before ++ step :: rest → step.change? = some c →
        start.told steps = start.told before ++
          (subscribers before).map (·, c.mutation (state.status.get c.counter +
            Change.total c.counter (changes before) + c.amount)) ++
          (start.after (before ++ [step])).told rest) ∧
      ∀ before listener rest, steps = before ++ .subscribe listener :: rest →
        listener ∉ subscribers before → listener ∉ subscribers rest →
        (heardBy listener (start.told steps)).length = (changes rest).length ∧
          ∀ k : Nat, (heardBy listener (start.told steps))[k]? = (changes rest)[k]?.map fun c =>
            c.mutation (state.status.get c.counter + Change.total c.counter (changes before) +
              Change.total c.counter ((changes rest).take (k + 1))) := by
  intro start changes subscribers
  have comes := comesTo_after start
  have reads (before : List (Step τ)) (counter : Counter) :
      (start.after before).state.status.get counter =
        state.status.get counter + Change.total counter (changes before) :=
    (comes before).counters counter
  refine ⟨fun s step => take_isOk_iff, ?_, fun step c => Step.change?_eq_some_iff, ?_,
    (comes steps).counters, (comes steps).days, (comes steps).site, ?_, ?_⟩
  · intro s key delta reason n whole
    unfold mutate State.mutate
    rw [State.readDelta_eq_ok_iff.2 whole]
    rfl
  · rintro before step rest rfl refused
    obtain ⟨still, silent⟩ := @next_of_refused τ (start.after before) step refused
    rw [after_append, after_append, told_append, told_append, told, silent, still]
    refine ⟨?_, rfl⟩
    change ((start.after before).next step).after rest = _
    rw [still]
  · rintro before step rest c rfl accepted
    have subscribed : (start.after before).listeners = subscribers before := (comes before).listeners
    rw [told_append, told, heard_of_change accepted, reads before, subscribed, List.append_assoc,
      after_append]
    rfl
  · rintro before listener rest rfl early late
    have heard : heardBy listener (start.told (before ++ .subscribe listener :: rest)) =
        Change.tell (start.after before).state.status (changes rest) :=
      @heardBy_since τ start before rest _ listener List.not_mem_nil early late
    rw [heard]
    refine ⟨Change.length_tell _ _, fun k => ?_⟩
    rw [Change.getElem?_tell]
    simp only [reads]

-- Who joins later hears the sum of all, and nothing of what is no integer.
example :
    let hp (delta : Value) : Step String := .mutate "hp" delta .null
    let log := told ⟨{ site := "ford", status := { hp := 100 } }, []⟩
      [.subscribe "early", hp (.int (-1)), .subscribe "late", hp (.float 3), hp (.bool true),
        hp (.float 0.5)]
    (heardBy "early" log).map (·.value) = [99, 102] ∧ (heardBy "late" log).map (·.value) = [102] := by
  decide +kernel

end Store

end Gamebook
