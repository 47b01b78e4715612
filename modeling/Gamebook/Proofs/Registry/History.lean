import Gamebook.Shelf
import Mathlib.Data.List.Nodup

/-! What registries come to.

A registry is the history of its writes. So what stands under a name is what was last written there, and
as registries lie apart from each other, a merged one shows what its parts held when it was made, and
nothing that is registered in them later.
-/

set_option autoImplicit false

namespace Gamebook

variable {α : Type}

namespace Registry

def registerAll (r : Registry α) (entries : List (String × α)) : Registry α :=
  entries.foldl (fun r entry => r.register entry.1 entry.2) r

theorem writes_registerAll (r : Registry α) (entries : List (String × α)) :
    (r.registerAll entries).writes = entries.reverse ++ r.writes := by
  induction entries generalizing r with
  | nil => rfl
  | cons entry rest ih =>
    rw [List.reverse_cons, List.append_assoc]
    exact ih (r.register entry.1 entry.2)

theorem get?_registerAll (r : Registry α) (entries : List (String × α)) (name : String) :
    (r.registerAll entries).get? name = (entries.reverse.lookup name).or (r.get? name) := by
  rw [get?, writes_registerAll, List.lookup_append, get?]

theorem get?_ofList (entries : List (String × α)) (name : String) :
    (ofList entries).get? name = entries.reverse.lookup name :=
  (get?_registerAll empty entries name).trans Option.or_none

/-- The name that is meant: the one given, else one's own. -/
def nameFor (name : Option String) (ownName : String) : String :=
  (name.filter (· ≠ "")).getD ownName

theorem registerAs_eq (r : Registry α) (name : Option String) (ownName : String) (item : α) :
    r.registerAs name ownName item = r.register (nameFor name ownName) item := by
  unfold registerAs
  split
  · rfl
  · rfl
  · rename_i name given
    have kept : (some name).filter (· ≠ "") = some name := by simpa using given
    rw [nameFor, kept, Option.getD_some]

theorem nodup_eraseDups (names : List String) : names.eraseDups.Nodup := by
  cases names with
  | nil => exact .nil
  | cons name rest =>
    rw [List.eraseDups_cons, List.nodup_cons, List.mem_eraseDups]
    exact ⟨by simp, nodup_eraseDups _⟩
termination_by names.length
decreasing_by
  simp only [List.length_cons]
  exact Nat.lt_succ_of_le (List.length_filter_le _ _)

theorem mem_names {r : Registry α} {name : String} : name ∈ r.names ↔ r.contains name = true := by
  rw [names, List.mem_mergeSort, List.mem_eraseDups, contains, get?]
  induction r.writes with
  | nil => simp
  | cons entry rest ih =>
    obtain ⟨other, item⟩ := entry
    rw [List.map_cons, List.mem_cons, ih, List.lookup_cons]
    by_cases same : name = other
    · simp [same]
    · simp only [same, false_or, beq_eq_false_iff_ne.2 same]

theorem nodup_names (r : Registry α) : r.names.Nodup :=
  (List.mergeSort_perm _ _).nodup_iff.2 (nodup_eraseDups _)

/-- However the names are listed that a look-up finds, a registry has as many. -/
theorem size_eq_length {r : Registry α} {names : List String} (distinct : names.Nodup)
    (found : ∀ name, name ∈ names ↔ (r.get? name).isSome = true) : r.size = names.length := by
  refine ((List.perm_ext_iff_of_nodup r.nodup_names distinct).2 fun name => ?_).length_eq
  rw [mem_names, found, contains]

theorem merge_assoc (a b : Registry α) (c : Option (Registry α)) :
    (a.merge (some b)).merge c = a.merge (some (b.merge c)) := by
  cases c with
  | none => rfl
  | some c => exact congrArg Registry.mk (List.append_assoc _ _ _).symm

theorem merge_empty (a : Registry α) : a.merge (some .empty) = a := rfl

theorem empty_merge (a : Registry α) : empty.merge (some a) = a :=
  congrArg Registry.mk (List.append_nil _)

end Registry

namespace Shelf

variable {s : Shelf α}

structure Apart (s : Shelf α) : Prop where
  leads : ∀ name place, s.place? name = some place → place < s.registries.length
  once : ∀ name other place, s.place? name = some place → s.place? other = some place → name = other

theorem place?_put (s : Shelf α) (name other : String) (r : Registry α) :
    (s.put name r).place? other = if other = name then some s.registries.length else s.place? other := by
  by_cases same : other = name
  · simp [place?, put, same]
  · simp [place?, put, List.lookup_cons, same, beq_eq_false_iff_ne.2 same]

theorem Apart.put (apart : s.Apart) (name : String) (r : Registry α) : (s.put name r).Apart := by
  -- an old name leads to an old place, which is not the one that has just been taken
  have fresh {other : String} {place : Nat} (old : s.place? other = some place) :
      place ≠ s.registries.length := Nat.ne_of_lt (apart.leads _ _ old)
  refine ⟨fun other place led => ?_, fun first second place led again => ?_⟩
  · rw [place?_put] at led
    simp only [Shelf.put, List.length_append, List.length_singleton]
    split at led
    · cases led
      exact Nat.lt_succ_self _
    · exact Nat.lt_succ_of_lt (apart.leads _ _ led)
  · rw [place?_put] at led again
    split at led <;> split at again
    · rename_i same other
      rw [same, other]
    · cases led
      exact absurd rfl (fresh again)
    · cases again
      exact absurd rfl (fresh led)
    · exact apart.once _ _ _ led again

theorem Apart.change (apart : s.Apart) (name : String) (f : Registry α → Registry α) :
    (s.change name f).Apart := by
  unfold Shelf.change
  split
  · refine ⟨fun other place led => ?_, apart.once⟩
    rw [List.length_modify]
    exact apart.leads other place led
  · exact apart.put _ _

theorem Apart.next (apart : s.Apart) (step : Step α) : (s.next step).Apart := by
  cases step with
  | new target entries => exact apart.put _ _
  | register target name item => exact apart.change _ _
  | decorate target name ownName item => exact apart.change _ _
  | merge left right target => exact apart.put _ _

theorem Apart.after (apart : s.Apart) (steps : List (Step α)) : (s.after steps).Apart := by
  induction steps generalizing s with
  | nil => exact apart
  | cons step rest ih => exact ih (apart.next step)

theorem apart_empty : ({} : Shelf α).Apart := ⟨nofun, nofun⟩

/-! ### One step -/

theorem get_put (apart : s.Apart) (name other : String) (r : Registry α) :
    (s.put name r).get other = if other = name then r else s.get other := by
  unfold get
  rw [place?_put]
  by_cases same : other = name
  · simp [same, put]
  · rw [if_neg same, if_neg same]
    cases led : s.place? other with
    | none => rfl
    | some place =>
      have kept : (s.put name r).registries[place]? = s.registries[place]? :=
        List.getElem?_append_left (apart.leads _ _ led)
      rw [Option.bind_some, Option.bind_some, kept]

theorem get_change (apart : s.Apart) (name other : String) (f : Registry α → Registry α) :
    (s.change name f).get other = if other = name then f (s.get name) else s.get other := by
  unfold change
  split
  · rename_i place led
    have there : place < s.registries.length := apart.leads _ _ led
    change ((s.place? other).bind ((s.registries.modify place f)[·]?)).getD .empty = _
    by_cases same : other = name
    · simp [get, same, led, there]
    · rw [if_neg same, get]
      cases away : s.place? other with
      | none => rfl
      | some far =>
        have differ : place ≠ far := fun met => same (apart.once _ _ _ away (met ▸ led))
        exact congrArg (·.getD .empty) (List.getElem?_modify_ne f _ differ)
  · rename_i nowhere
    rw [get_put apart]
    simp [get, nowhere]

namespace Step

def target : Step α → String
  | .new target _ => target
  | .register target _ _ => target
  | .decorate target _ _ _ => target
  | .merge _ _ target => target

/-- Whether a step makes the registry that it writes. -/
def Makes : Step α → Prop
  | .new _ _ | .merge _ _ _ => True
  | _ => False

/-- What a step writes under a name of a registry. A new registry holds the last of the entries of each
name; a merged one holds what stands in the right part, and for other names what stands in the left. -/
inductive Writes (s : Shelf α) (target name : String) (item : α) : Step α → Prop where
  | new {entries : List (String × α)} (last : entries.reverse.lookup name = some item) :
      Writes s target name item (.new target entries)
  | register : Writes s target name item (.register target name item)
  | decorate {given : Option String} {ownName : String} (named : Registry.nameFor given ownName = name) :
      Writes s target name item (.decorate target given ownName item)
  | right {left right : String} (held : (s.get right).get? name = some item) :
      Writes s target name item (.merge left (some right) target)
  | left {left : String} {right : Option String} (held : (s.get left).get? name = some item)
      (free : ∀ other, right = some other → (s.get other).get? name = none) :
      Writes s target name item (.merge left right target)

/-- A step leaves a name of a registry as it is: it neither makes the registry nor registers the name. -/
def Spares (target name : String) : Step α → Prop
  | .new other _ => other ≠ target
  | .register other given _ => other = target → given ≠ name
  | .decorate other given ownName _ => other = target → Registry.nameFor given ownName ≠ name
  | .merge _ _ other => other ≠ target

end Step

theorem next_decorate (s : Shelf α) (target : String) (given : Option String) (ownName : String)
    (item : α) : s.next (.decorate target given ownName item) =
      s.next (.register target (Registry.nameFor given ownName) item) :=
  congrArg (s.change target) (funext fun r => r.registerAs_eq given ownName item)

/-- A step writes to the registry that is its target, and to no other. -/
theorem get_next_of_ne (apart : s.Apart) {step : Step α} {other : String} (apartFrom : step.target ≠ other) :
    (s.next step).get other = s.get other := by
  cases step with
  | new target entries => exact (get_put apart _ _ _).trans (if_neg apartFrom.symm)
  | register target name item => exact (get_change apart _ _ _).trans (if_neg apartFrom.symm)
  | decorate target name ownName item => exact (get_change apart _ _ _).trans (if_neg apartFrom.symm)
  | merge left right target => exact (get_put apart _ _ _).trans (if_neg apartFrom.symm)

/-- A registry stays as it is where it lies, unless a step registers something in it. -/
theorem getElem?_registries_next {step : Step α} {place : Nat} {r : Registry α}
    (there : s.registries[place]? = some r) (untouched : step.Makes ∨ s.place? step.target ≠ some place) :
    (s.next step).registries[place]? = some r := by
  have put (name : String) (made : Registry α) : (s.put name made).registries[place]? = some r :=
    (List.getElem?_append_left (List.getElem?_eq_some_iff.1 there).1).trans there
  have change (f : Registry α → Registry α) (away : s.place? step.target ≠ some place) :
      (s.change step.target f).registries[place]? = some r := by
    unfold Shelf.change
    split
    · rename_i other led
      have differ : other ≠ place := fun met => away (met ▸ led)
      exact (List.getElem?_modify_ne f _ differ).trans there
    · exact put _ _
  cases step with
  | new target entries => exact put _ _
  | register target name item => exact change _ (untouched.resolve_left id)
  | decorate target name ownName item => exact change _ (untouched.resolve_left id)
  | merge left right target => exact put _ _

section

variable {target name : String} {item : α}

theorem get?_put_iff (apart : s.Apart) {other : String} {r : Registry α} :
    ((s.put other r).get target).get? name = some item ↔
      (other = target ∧ r.get? name = some item) ∨
        (other ≠ target ∧ (s.get target).get? name = some item) := by
  rw [get_put apart]
  by_cases same : target = other
  · simp [same]
  · simp [same, Ne.symm same]

theorem get?_register_iff (apart : s.Apart) {other given : String} {own : α} :
    ((s.next (.register other given own)).get target).get? name = some item ↔
      (other = target ∧ given = name ∧ own = item) ∨
        ((other = target → given ≠ name) ∧ (s.get target).get? name = some item) := by
  change ((s.change other (·.register given own)).get target).get? name = some item ↔ _
  rw [get_change apart]
  by_cases same : target = other
  · subst same
    rw [if_pos rfl, Registry.get?_register]
    by_cases met : name = given
    · simp [met]
    · simp [met, Ne.symm met]
  · simp [same, Ne.symm same]

theorem get?_merge_iff {left : Registry α} {right : Option (Registry α)} :
    (left.merge right).get? name = some item ↔
      (∃ other, right = some other ∧ other.get? name = some item) ∨
        (left.get? name = some item ∧ ∀ other, right = some other → other.get? name = none) := by
  cases right with
  | none => simp
  | some right =>
    rw [Registry.get?_merge]
    cases held : right.get? name <;> simp [held]

/-- After a step there stands under a name what the step writes, or what stood there if it is spared. -/
theorem get?_next_iff (apart : s.Apart) {step : Step α} :
    ((s.next step).get target).get? name = some item ↔
      step.Writes s target name item ∨
        (step.Spares target name ∧ (s.get target).get? name = some item) := by
  cases step with
  | new other entries =>
    refine (get?_put_iff apart).trans (or_congr ?_ Iff.rfl)
    rw [Registry.get?_ofList]
    constructor
    · rintro ⟨rfl, last⟩
      exact .new last
    · intro writes
      cases writes with
      | new last => exact ⟨rfl, last⟩
  | register other given own =>
    refine (get?_register_iff apart).trans (or_congr ?_ Iff.rfl)
    constructor
    · rintro ⟨rfl, rfl, rfl⟩
      exact .register
    · intro writes
      cases writes
      exact ⟨rfl, rfl, rfl⟩
  | decorate other given ownName own =>
    rw [next_decorate]
    refine (get?_register_iff apart).trans (or_congr ?_ Iff.rfl)
    constructor
    · rintro ⟨rfl, named, rfl⟩
      exact .decorate named
    · intro writes
      cases writes with
      | decorate named => exact ⟨rfl, named, rfl⟩
  | merge left right other =>
    refine (get?_put_iff apart).trans (or_congr ?_ Iff.rfl)
    rw [get?_merge_iff]
    constructor
    · rintro ⟨rfl, ⟨_, given, held⟩ | ⟨held, free⟩⟩
      · obtain ⟨right, rfl, rfl⟩ := Option.map_eq_some_iff.1 given
        exact .right held
      · exact .left held fun right given => free _ (by rw [given, Option.map_some])
    · intro writes
      cases writes with
      | right held => exact ⟨rfl, .inl ⟨_, rfl, held⟩⟩
      | left held free =>
        refine ⟨rfl, .inr ⟨held, fun _ given => ?_⟩⟩
        obtain ⟨right, named, rfl⟩ := Option.map_eq_some_iff.1 given
        exact free right named

/-! ### Many steps -/

/-- What stands under a name after some steps was written by one of them and spared by all later ones, or
it stood there and all of them spared it. -/
theorem get?_after_iff (apart : s.Apart) {steps : List (Step α)} :
    ((s.after steps).get target).get? name = some item ↔
      (∃ before step rest, steps = before ++ step :: rest ∧
        step.Writes (s.after before) target name item ∧ ∀ later ∈ rest, later.Spares target name) ∨
      ((∀ step ∈ steps, step.Spares target name) ∧ (s.get target).get? name = some item) := by
  induction steps generalizing s with
  | nil => simp [after]
  | cons first steps ih =>
    change (((s.next first).after steps).get target).get? name = some item ↔ _
    rw [ih (apart.next first), get?_next_iff apart, List.forall_mem_cons]
    constructor
    · rintro (⟨before, step, rest, rfl, writes, spared⟩ | ⟨spared, writes | ⟨kept, held⟩⟩)
      · exact .inl ⟨first :: before, step, rest, rfl, writes, spared⟩
      · exact .inl ⟨[], first, steps, rfl, writes, spared⟩
      · exact .inr ⟨⟨kept, spared⟩, held⟩
    · rintro (⟨before, step, rest, split, writes, spared⟩ | ⟨⟨kept, spared⟩, held⟩)
      · cases before with
        | nil =>
          obtain ⟨rfl, rfl⟩ := List.cons.inj split
          exact .inr ⟨spared, .inl writes⟩
        | cons other before =>
          obtain ⟨rfl, rfl⟩ := List.cons.inj split
          exact .inl ⟨before, step, rest, rfl, writes, spared⟩
      · exact .inr ⟨spared, .inr ⟨kept, held⟩⟩

end

/-- Steps that write other registries leave a registry as it is. -/
theorem get_after_of_ne (apart : s.Apart) {steps : List (Step α)} {other : String}
    (away : ∀ step ∈ steps, step.target ≠ other) : (s.after steps).get other = s.get other := by
  induction steps generalizing s with
  | nil => rfl
  | cons step rest ih =>
    rw [List.forall_mem_cons] at away
    exact (ih (apart.next step) away.2).trans (get_next_of_ne apart away.1)

/-- Whatever is done with registries that go by names, what stands under a name in one of them is what was
last written there since it was made; where it was made by a merge, this shows the right part over the left
one, as they were then. A step changes one registry at most, the one that it registers something in; so a
merged registry and its parts do not show each other what is registered later. A registry contains the names
that a look-up finds something under, and has as many as there are. Merging is associative, the right side
wins, and nothing and an empty registry change nothing. -/
theorem last_write_wins (steps : List (Step α)) :
    let s : Shelf α := after {} steps
    (∀ target name item, (s.get target).get? name = some item ↔
        ∃ before step rest, steps = before ++ step :: rest ∧
          step.Writes (after {} before) target name item ∧ ∀ later ∈ rest, later.Spares target name) ∧
      (∀ step place r, s.registries[place]? = some r → step.Makes ∨ s.place? step.target ≠ some place →
        (s.next step).registries[place]? = some r) ∧
      (∀ rest other, (∀ step ∈ rest, step.target ≠ other) → (s.after rest).get other = s.get other) ∧
      (∀ left right target rest, (∀ step ∈ rest, step.target ≠ target) →
        (s.after (.merge left right target :: rest)).get target =
          (s.get left).merge (right.map s.get)) ∧
      (∀ (r : Registry α) name, r.contains name = true ↔ ∃ item, r.get? name = some item) ∧
      (∀ (r : Registry α) (names : List String), names.Nodup →
        (∀ name, name ∈ names ↔ ∃ item, r.get? name = some item) → r.size = names.length) ∧
      (∀ (a b : Registry α) c, (a.merge (some b)).merge c = a.merge (some (b.merge c))) ∧
      (∀ a : Registry α, a.merge none = a ∧ a.merge (some .empty) = a ∧ Registry.empty.merge (some a) = a) ∧
      ∀ (a b : Registry α) name, (a.merge (some b)).get? name = (b.get? name).or (a.get? name) := by
  intro s
  have apart : s.Apart := apart_empty.after steps
  refine ⟨fun target name item => ?_, fun step place r => getElem?_registries_next,
    fun rest other => get_after_of_ne apart, fun left right target rest away => ?_,
    fun r name => Option.isSome_iff_exists, fun r names distinct found => ?_, Registry.merge_assoc,
    fun a => ⟨rfl, a.merge_empty, a.empty_merge⟩, Registry.get?_merge⟩
  · rw [get?_after_iff apart_empty]
    refine or_iff_left ?_
    rintro ⟨-, held⟩
    cases held
  · refine (get_after_of_ne (apart.next _) away).trans ?_
    exact (get_put apart _ _ _).trans (if_pos rfl)
  · exact Registry.size_eq_length distinct fun name => (found name).trans Option.isSome_iff_exists.symm

-- A merge into one of its own parts: what is registered in the other part later does not show.
example :
    let s : Shelf Nat := after {} [.new "a" [("x", 1)], .new "b" [("x", 2)],
      .merge "a" (some "b") "a", .register "b" "x" 3, .decorate "a" none "y" 4]
    (s.get "a").get? "x" = some 2 ∧ (s.get "a").get? "y" = some 4 ∧ (s.get "b").get? "x" = some 3 := by
  decide

end Shelf

end Gamebook
