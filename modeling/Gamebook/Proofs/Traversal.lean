/-! Steps that may fail, one after the other and over the items of a list. -/

set_option autoImplicit false

namespace Gamebook

variable {ε α β γ : Type}

theorem bind_eq_ok {x : Except ε α} {next : α → Except ε β} {b : β}
    (done : x >>= next = .ok b) : ∃ a, x = .ok a ∧ next a = .ok b := by
  cases x with
  | error e => cases done
  | ok a => exact ⟨a, rfl, done⟩

theorem bind_eq_error {x : Except ε α} {next : α → Except ε β} {e : ε}
    (failed : x >>= next = .error e) : x = .error e ∨ ∃ a, x = .ok a ∧ next a = .error e := by
  cases x with
  | error e' =>
    cases failed
    exact .inl rfl
  | ok a => exact .inr ⟨a, rfl, failed⟩

theorem map_eq_ok {x : Except ε α} {f : α → β} {b : β} (done : x.map f = .ok b) :
    ∃ a, x = .ok a ∧ f a = b := by
  cases x with
  | error e => cases done
  | ok a =>
    cases done
    exact ⟨a, rfl, rfl⟩

theorem mapM_cons_eq_ok {f : α → Except ε β} {item : α} {rest : List α} {results : List β}
    (done : (item :: rest).mapM f = .ok results) :
    ∃ b bs, f item = .ok b ∧ rest.mapM f = .ok bs ∧ results = b :: bs := by
  rw [List.mapM_cons] at done
  obtain ⟨b, first, done⟩ := bind_eq_ok done
  obtain ⟨bs, others, done⟩ := bind_eq_ok done
  cases done
  exact ⟨b, bs, first, others, rfl⟩

theorem exists_of_mem_mapM {f : α → Except ε β} {items : List α} {results : List β}
    (done : items.mapM f = .ok results) {b : β} (member : b ∈ results) :
    ∃ a ∈ items, f a = .ok b := by
  induction items generalizing results with
  | nil =>
    cases done
    cases member
  | cons item rest ih =>
    obtain ⟨first, others, made, mapped, rfl⟩ := mapM_cons_eq_ok done
    rcases List.mem_cons.1 member with rfl | member
    · exact ⟨item, by simp, made⟩
    · obtain ⟨a, within, made⟩ := ih mapped member
      exact ⟨a, by simp [within], made⟩

theorem getElem?_of_mapM {f : α → Except ε β} {items : List α} {results : List β}
    (done : items.mapM f = .ok results) {i : Nat} {a : α} (placed : items[i]? = some a) :
    ∃ b, results[i]? = some b ∧ f a = .ok b := by
  induction items generalizing results i with
  | nil => cases placed
  | cons item rest ih =>
    obtain ⟨first, others, made, mapped, rfl⟩ := mapM_cons_eq_ok done
    cases i with
    | zero =>
      cases placed
      exact ⟨first, rfl, made⟩
    | succ i => exact ih mapped placed

/-- When no step fails, the results are what each step promises. -/
theorem mapM_eq_ok {f : α → Except ε β} {P : β → Prop} {items : List α}
    (each : ∀ a ∈ items, ∃ b, f a = .ok b ∧ P b) :
    ∃ results, items.mapM f = .ok results ∧ ∀ b ∈ results, P b := by
  induction items with
  | nil => exact ⟨[], rfl, by simp⟩
  | cons item rest ih =>
    obtain ⟨b, made, promised⟩ := each item (by simp)
    obtain ⟨bs, mapped, others⟩ := ih fun a member => each a (by simp [member])
    refine ⟨b :: bs, ?_, ?_⟩
    · rw [List.mapM_cons, made, mapped]
      rfl
    · intro other member
      rcases List.mem_cons.1 member with rfl | member
      · exact promised
      · exact others other member

theorem exists_of_mapM_eq_error {f : α → Except ε β} {items : List α} {e : ε}
    (failed : items.mapM f = .error e) : ∃ a ∈ items, f a = .error e := by
  induction items with
  | nil => cases failed
  | cons item rest ih =>
    rw [List.mapM_cons] at failed
    rcases bind_eq_error failed with failed | ⟨b, _, failed⟩
    · exact ⟨item, by simp, failed⟩
    · rcases bind_eq_error failed with failed | ⟨bs, _, failed⟩
      · obtain ⟨a, within, failed⟩ := ih failed
        exact ⟨a, by simp [within], failed⟩
      · cases failed

/-- The first step that fails decides. -/
theorem mapM_eq_error_iff {f : α → Except ε β} {items : List α} {e : ε} :
    items.mapM f = .error e ↔
      ∃ before a after, items = before ++ a :: after ∧ (∀ b ∈ before, ∃ result, f b = .ok result) ∧
        f a = .error e := by
  constructor
  · intro failed
    induction items with
    | nil => cases failed
    | cons item rest ih =>
      rw [List.mapM_cons] at failed
      rcases bind_eq_error failed with failed | ⟨result, done, failed⟩
      · exact ⟨[], item, rest, rfl, by simp, failed⟩
      · rcases bind_eq_error failed with failed | ⟨_, _, failed⟩
        · obtain ⟨before, a, after, rfl, each, broken⟩ := ih failed
          exact ⟨item :: before, a, after, rfl, List.forall_mem_cons.2 ⟨⟨result, done⟩, each⟩, broken⟩
        · cases failed
  · rintro ⟨before, a, after, rfl, each, broken⟩
    induction before with
    | nil =>
      rw [List.nil_append, List.mapM_cons, broken]
      rfl
    | cons item rest ih =>
      rw [List.forall_mem_cons] at each
      obtain ⟨⟨result, done⟩, each⟩ := each
      rw [List.cons_append, List.mapM_cons, done, ih each]
      rfl

/-- When each step keeps its promise or fails for one known reason, so do all of them. -/
theorem mapM_ok_or {f : α → Except ε β} {P : β → Prop} {Q : ε → Prop} {items : List α}
    (each : ∀ a ∈ items, (∃ b, f a = .ok b ∧ P b) ∨ ∃ e, f a = .error e ∧ Q e) :
    (∃ results, items.mapM f = .ok results ∧ ∀ b ∈ results, P b) ∨
      ∃ e, items.mapM f = .error e ∧ Q e := by
  cases run : items.mapM f with
  | ok results =>
    refine .inl ⟨results, rfl, fun b member => ?_⟩
    obtain ⟨a, listed, made⟩ := exists_of_mem_mapM run member
    rcases each a listed with ⟨other, done, promised⟩ | ⟨e, failed, -⟩
    · rw [done] at made
      cases made
      exact promised
    · rw [failed] at made
      cases made
  | error e =>
    obtain ⟨a, listed, broken⟩ := exists_of_mapM_eq_error run
    rcases each a listed with ⟨other, done, -⟩ | ⟨known, failed, reason⟩
    · rw [done] at broken
      cases broken
    · rw [failed] at broken
      cases broken
      exact .inr ⟨e, rfl, reason⟩

theorem exists_of_mem_items {f : α → Except ε β} {items : List α} {results : List β}
    (done : items.mapM f = .ok results) {a : α} (member : a ∈ items) : ∃ b, f a = .ok b := by
  induction items generalizing results with
  | nil => cases member
  | cons item rest ih =>
    obtain ⟨first, others, made, mapped, -⟩ := mapM_cons_eq_ok done
    rcases List.mem_cons.1 member with rfl | member
    · exact ⟨first, made⟩
    · exact ih mapped member

theorem exists_mapM_eq_error {f : α → Except ε β} {items : List α} {a : α} {e : ε}
    (member : a ∈ items) (failed : f a = .error e) : ∃ first, items.mapM f = .error first := by
  cases run : items.mapM f with
  | error first => exact ⟨first, rfl⟩
  | ok results =>
    obtain ⟨b, made⟩ := exists_of_mem_items run member
    rw [failed] at made
    cases made

/-- What each step keeps of its item, the results keep of the items. -/
theorem map_eq_of_mapM {f : α → Except ε β} {p : β → γ} {q : α → γ}
    (each : ∀ a b, f a = .ok b → p b = q a) {items : List α} {results : List β}
    (done : items.mapM f = .ok results) : results.map p = items.map q := by
  induction items generalizing results with
  | nil =>
    cases done
    rfl
  | cons item rest ih =>
    obtain ⟨b, bs, made, mapped, rfl⟩ := mapM_cons_eq_ok done
    rw [List.map_cons, List.map_cons, each item b made, ih mapped]

end Gamebook
