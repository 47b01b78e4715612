import Gamebook.Proofs.Script.Playable
import Gamebook.Proofs.Traversal
import Gamebook.Template

/-! Filling texts.

Where the names and targets of exits are texts, a text is filled with texts, and only a number of too
many digits in the state keeps it from being filled.
-/

set_option autoImplicit false

namespace Gamebook

/-- Whether the numbers of the state can be written. -/
def State.isWritable (state : State) : Bool :=
  (Value.int state.days).isWritable &&
    Counter.all.all fun counter => (Value.int (state.status.get counter)).isWritable

theorem Value.toText_eq_error {v : Value} {fault : Fault} (failed : v.toText = .error fault) :
    fault = .badNumeral ∧ v.isWritable = false := by
  unfold toText at failed
  split at failed
  · cases failed
  · rename_i unwritable
    cases failed
    exact ⟨rfl, Bool.eq_false_iff.2 unwritable⟩

/-- The name and the target of an exit are texts, where they are given. -/
structure Exit.Labelled (exit : Exit) : Prop where
  name : exit.name = .null ∨ ∃ name, exit.name = .text name
  target : exit.target = .null ∨ ∃ site, exit.target = .text site

def Script.Labelled (script : Script) : Prop :=
  ∀ site ∈ script.sites, ∀ exit ∈ site.exits, exit.Labelled

theorem Exit.Playable.labelled {exit : Exit} (playable : exit.Playable) : exit.Labelled :=
  ⟨playable.name, playable.target⟩

theorem Script.Playable.labelled {script : Script} (playable : script.Playable) : script.Labelled :=
  fun site member exit listed => ((playable.sites site member).exits exit listed).labelled

namespace Template

variable {script : Script} {config : TextConfig} {state : State}

theorem exitLabel_of_labelled {exit : Exit} (labelled : exit.Labelled) :
    ∃ label, exitLabel script config exit = .ok label ∧ ∃ name, label = .text name := by
  unfold exitLabel
  by_cases named : exit.name.isTruthy = true
  · rcases labelled.name with null | named'
    · rw [null] at named
      cases named
    · exact ⟨exit.name, by rw [if_pos named]; rfl, named'⟩
  · rw [if_neg named]
    rcases labelled.target with null | ⟨site, led⟩
    · rw [null]
      exact ⟨_, rfl, config.goToPrefix, rfl⟩
    · rw [led]
      split
      · exact ⟨_, rfl, config.goToPrefix, rfl⟩
      · have known : script.site? (.text site) = .ok (script.findSite? site) := rfl
        rw [known]
        cases script.findSite? site with
        | none => exact ⟨_, rfl, config.goToPrefix ++ site, rfl⟩
        | some found => exact ⟨_, rfl, config.goToPrefix ++ found.name, rfl⟩

theorem exitLabels_of_labelled {site : Site} (labelled : ∀ exit ∈ site.exits, exit.Labelled) :
    ∃ labels, exitLabels script config site = .ok labels ∧
      ∀ label ∈ labels, ∃ name, label = .text name :=
  mapM_eq_ok fun exit member => exitLabel_of_labelled (labelled exit member)

variable (labelled : script.Labelled)
include labelled

theorem slotText_eq_error {slot : Slot} {fault : Fault}
    (failed : slotText script config state slot = .error fault) :
    fault = .badNumeral ∧ state.isWritable = false := by
  cases slot with
  | site =>
    simp only [slotText] at failed
    split at failed <;> cases failed
  | exits =>
    simp only [slotText] at failed
    split at failed
    · rename_i site found
      have here := labelled site (Script.mem_of_findSite? found)
      -- the labels are texts, so they can be joined
      obtain ⟨labels, listed, texts⟩ := exitLabels_of_labelled here
      have written : ∃ names, labels.mapM asText = .ok names ∧ ∀ name ∈ names, True := by
        refine mapM_eq_ok fun label member => ?_
        obtain ⟨name, rfl⟩ := texts label member
        exact ⟨name, rfl, trivial⟩
      obtain ⟨names, written, -⟩ := written
      rw [listed] at failed
      change (labels.mapM asText >>= _) = _ at failed
      rw [written] at failed
      cases failed
    · cases failed
  | days =>
    obtain ⟨rfl, unwritable⟩ := Value.toText_eq_error failed
    exact ⟨rfl, by simp [State.isWritable, unwritable]⟩
  | counter c =>
    obtain ⟨rfl, unwritable⟩ := Value.toText_eq_error failed
    refine ⟨rfl, ?_⟩
    cases c <;> simp [State.isWritable, Counter.all, unwritable]

omit labelled in
theorem render_eq_error {value : Slot → Except Fault String} {pieces : List Piece} {fault : Fault}
    (failed : render value pieces = .error fault) :
    ∃ slot, .slot slot ∈ pieces ∧ value slot = .error fault := by
  induction pieces with
  | nil => cases failed
  | cons piece rest ih =>
    have later : render value rest = .error fault →
        ∃ slot, .slot slot ∈ piece :: rest ∧ value slot = .error fault := by
      intro failed
      obtain ⟨slot, member, failed⟩ := ih failed
      exact ⟨slot, List.mem_cons_of_mem _ member, failed⟩
    cases piece with
    | char c =>
      rcases bind_eq_error failed with failed | ⟨symbols, _, failed⟩
      · exact later failed
      · cases failed
    | slot slot =>
      rcases bind_eq_error failed with failed | ⟨text, _, failed⟩
      · exact ⟨slot, List.mem_cons_self, failed⟩
      · rcases bind_eq_error failed with failed | ⟨symbols, _, failed⟩
        · exact later failed
        · cases failed

theorem fill_text (raw : String) :
    (∃ filled, fill script config state (.text raw) = .ok (.text filled)) ∨
      fill script config state (.text raw) = .error .badNumeral ∧ state.isWritable = false := by
  unfold fill
  dsimp only
  cases filled : render (slotText script config state) (pieces 0 raw.toList) with
  | ok symbols => exact .inl ⟨String.ofList symbols, rfl⟩
  | error fault =>
    obtain ⟨slot, -, failed⟩ := render_eq_error filled
    obtain ⟨rfl, unwritable⟩ := slotText_eq_error labelled failed
    exact .inr ⟨rfl, unwritable⟩

end Template

end Gamebook
