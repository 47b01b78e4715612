import Gamebook.Proofs.Script.Filling
import Gamebook.Proofs.Session.Run

/-! Where placeholders stand in a text, and what filling makes of it.

A text may be cut in front of any character that is no word character: no placeholder reaches over the
cut, and each part is filled by itself.
-/

set_option autoImplicit false

namespace Gamebook

namespace Slot

def token (slot : Slot) : String := "$" ++ slot.name

example : all.map token = ["$site", "$ports", "$days", "$hp", "$money", "$honor"] := by decide

/-- A placeholder of this kind stands in the text. -/
def OccursIn (slot : Slot) (raw : String) : Prop :=
  ∃ before after : String, raw = before ++ slot.token ++ after ∧ wordEnds after.toList = true

theorem OccursIn.dollar_mem {slot : Slot} {raw : String} (occurs : slot.OccursIn raw) :
    '$' ∈ raw.toList := by
  obtain ⟨before, after, rfl, -⟩ := occurs
  simp [token]

theorem mem_all (slot : Slot) : slot ∈ all := by
  cases slot with
  | counter c => cases c <;> decide
  | _ => decide

theorem isWord_of_mem_name (slot : Slot) : ∀ c ∈ slot.name.toList, Text.isWord c = true := by
  have words : (all.all fun slot => slot.name.toList.all Text.isWord) = true := by decide +kernel
  exact List.all_eq_true.1 (List.all_eq_true.1 words slot slot.mem_all)

theorem eq_of_name_eq {slot other : Slot} (same : slot.name.toList = other.name.toList) :
    slot = other := by
  have apart : ∀ slot ∈ all, ∀ other ∈ all, slot.name.toList = other.name.toList → slot = other := by
    decide +kernel
  exact apart slot slot.mem_all other other.mem_all same

theorem wordEnds_append {cs rest : List Char} (ends : wordEnds cs = true)
    (restEnds : wordEnds rest = true) : wordEnds (cs ++ rest) = true := by
  cases cs with
  | nil => exact restEnds
  | cons c more => exact ends

theorem takeWhile_isWord_name (slot : Slot) {rest : List Char} (ends : wordEnds rest = true) :
    (slot.name.toList ++ rest).takeWhile Text.isWord = slot.name.toList := by
  rw [List.takeWhile_append_of_pos slot.isWord_of_mem_name]
  cases rest with
  | nil => simp
  | cons c more =>
    have other : Text.isWord c = false := by simpa [wordEnds] using ends
    simp [other]

theorem exists_of_at? {cs : List Char} {slot : Slot} (found : at? cs = some slot) :
    ∃ rest, cs = slot.name.toList ++ rest ∧ wordEnds rest = true := by
  have met := List.find?_some found
  rw [Bool.and_eq_true, List.isPrefixOf_iff_prefix] at met
  obtain ⟨⟨rest, rfl⟩, ends⟩ := met
  refine ⟨rest, rfl, ?_⟩
  rwa [← String.length_toList, List.drop_left] at ends

theorem at?_name (slot : Slot) {rest : List Char} (ends : wordEnds rest = true) :
    at? (slot.name.toList ++ rest) = some slot := by
  cases found : at? (slot.name.toList ++ rest) with
  | none =>
    have missed := List.find?_eq_none.1 found slot slot.mem_all
    rw [← String.length_toList, List.drop_left, ends, Bool.and_true, List.isPrefixOf_iff_prefix] at missed
    exact absurd (List.prefix_append _ _) missed
  | some other =>
    -- the name is all the word characters that come first, so no other name is found
    obtain ⟨others, same, otherEnds⟩ := exists_of_at? found
    have word := slot.takeWhile_isWord_name ends
    rw [same, other.takeWhile_isWord_name otherEnds] at word
    rw [eq_of_name_eq word]

theorem at?_eq_some_iff {cs : List Char} {slot : Slot} :
    at? cs = some slot ↔ ∃ rest, cs = slot.name.toList ++ rest ∧ wordEnds rest = true := by
  constructor
  · exact exists_of_at?
  · rintro ⟨rest, rfl, ends⟩
    exact at?_name slot ends

theorem at?_append (cs : List Char) {rest : List Char} (ends : wordEnds rest = true) :
    at? (cs ++ rest) = at? cs := by
  apply Option.ext
  intro slot
  rw [at?_eq_some_iff, at?_eq_some_iff]
  constructor
  · rintro ⟨others, same, otherEnds⟩
    rcases List.append_eq_append_iff.1 same with ⟨more, name, rfl⟩ | ⟨more, rfl, rfl⟩
    · cases more with
      | nil => exact ⟨[], by simp [name], rfl⟩
      | cons c more =>
        -- the name would go on behind the cut, with a word character
        have letter := slot.isWord_of_mem_name c (by simp [name])
        have other : Text.isWord c = false := by simpa [wordEnds] using ends
        rw [letter] at other
        cases other
    · refine ⟨more, rfl, ?_⟩
      cases more with
      | nil => rfl
      | cons c more => exact otherEnds
  · rintro ⟨others, rfl, otherEnds⟩
    exact ⟨others ++ rest, by simp, wordEnds_append otherEnds ends⟩

end Slot

namespace Template

open Slot

theorem pieces_drop (taken rest : List Char) : pieces taken.length (taken ++ rest) = pieces 0 rest := by
  induction taken with
  | nil => rfl
  | cons c taken ih => simpa [pieces] using ih

-- What is skipped belongs to a placeholder that ends before the cut.
theorem pieces_append {cs rest : List Char} {skip : Nat} (within : skip ≤ cs.length)
    (ends : wordEnds rest = true) : pieces skip (cs ++ rest) = pieces skip cs ++ pieces 0 rest := by
  induction cs generalizing skip with
  | nil =>
    cases Nat.le_zero.1 within
    rfl
  | cons c cs ih =>
    cases skip with
    | succ skip => exact ih (Nat.le_of_succ_le_succ within)
    | zero =>
      rw [List.cons_append, pieces, pieces, at?_append cs ends]
      split
      · cases found : at? cs with
        | none =>
          dsimp only
          rw [ih (Nat.zero_le _), List.cons_append]
        | some slot =>
          obtain ⟨others, named, -⟩ := exists_of_at? found
          have taken : slot.name.length ≤ cs.length := by
            rw [named, List.length_append, String.length_toList]
            exact Nat.le_add_right _ _
          dsimp only
          rw [ih taken, List.cons_append]
      · rw [ih (Nat.zero_le _), List.cons_append]

theorem pieces_token (slot : Slot) {rest : List Char} (ends : wordEnds rest = true) :
    pieces 0 (slot.token.toList ++ rest) = .slot slot :: pieces 0 rest := by
  have cut : slot.token.toList ++ rest = '$' :: (slot.name.toList ++ rest) := by simp [token]
  rw [cut, pieces, if_pos rfl, at?_name slot ends]
  dsimp only
  rw [← String.length_toList, pieces_drop]

theorem wordEnds_dollar (rest : List Char) : wordEnds ('$' :: rest) = true := by
  have dollar : Text.isWord '$' = false := by decide +kernel
  simp [wordEnds, dollar]

theorem wordEnds_token (slot : Slot) (rest : List Char) :
    wordEnds (slot.token.toList ++ rest) = true := by
  have dollar : slot.token.toList ++ rest = '$' :: (slot.name.toList ++ rest) := by simp [token]
  rw [dollar]
  exact wordEnds_dollar _

theorem exists_of_slot_mem_pieces {slot : Slot} {cs : List Char} {skip : Nat}
    (member : .slot slot ∈ pieces skip cs) :
    ∃ before after, cs = before ++ slot.token.toList ++ after ∧ wordEnds after = true := by
  induction cs generalizing skip with
  | nil => cases skip <;> cases member
  | cons c cs ih =>
    have later : ∀ {skip}, .slot slot ∈ pieces skip cs →
        ∃ before after, c :: cs = before ++ slot.token.toList ++ after ∧ wordEnds after = true := by
      intro skip member
      obtain ⟨before, after, rfl, ends⟩ := ih member
      exact ⟨c :: before, after, rfl, ends⟩
    cases skip with
    | succ skip => exact later member
    | zero =>
      rw [pieces] at member
      split at member
      · rename_i dollar
        split at member
        · rename_i found
          rcases List.mem_cons.1 member with same | member
          · cases same
            obtain ⟨after, rfl, ends⟩ := exists_of_at? found
            exact ⟨[], after, by simp [token, dollar], ends⟩
          · exact later member
        · exact later (by simpa using member)
      · exact later (by simpa using member)

theorem slot_mem_pieces_iff {slot : Slot} {raw : String} :
    .slot slot ∈ pieces 0 raw.toList ↔ slot.OccursIn raw := by
  constructor
  · intro member
    obtain ⟨before, after, cut, ends⟩ := exists_of_slot_mem_pieces member
    refine ⟨String.ofList before, String.ofList after, ?_, by simpa using ends⟩
    apply String.toList_injective
    simpa using cut
  · rintro ⟨before, after, rfl, ends⟩
    rw [String.toList_append, String.toList_append, List.append_assoc,
      pieces_append (Nat.zero_le _) (wordEnds_token slot _), pieces_token slot ends]
    simp

theorem pieces_eq_map_char {cs : List Char} (none : ∀ slot, .slot slot ∉ pieces 0 cs) :
    pieces 0 cs = cs.map .char := by
  induction cs with
  | nil => rfl
  | cons c cs ih =>
    rw [pieces] at none ⊢
    split
    · rename_i dollar
      rw [if_pos dollar] at none
      cases found : at? cs with
      | some slot =>
        simp only [found] at none
        exact absurd List.mem_cons_self (none slot)
      | none =>
        simp only [found] at none
        dsimp only
        rw [List.map_cons, ih fun slot member => none slot (List.mem_cons_of_mem _ member)]
    · rename_i other
      rw [if_neg other] at none
      rw [List.map_cons, ih fun slot member => none slot (List.mem_cons_of_mem _ member)]

section

variable {value : Slot → Except Fault String}

theorem render_append (first second : List Piece) :
    render value (first ++ second) = do
      return (← render value first) ++ (← render value second) := by
  induction first with
  | nil =>
    rw [List.nil_append, render]
    cases render value second <;> rfl
  | cons piece rest ih =>
    cases piece with
    | char c =>
      rw [List.cons_append, render, render, ih]
      cases render value rest with
      | error fault => rfl
      | ok symbols => cases render value second <;> rfl
    | slot slot =>
      rw [List.cons_append, render, render, ih]
      cases value slot with
      | error fault => rfl
      | ok text =>
        cases render value rest with
        | error fault => rfl
        | ok symbols =>
          cases render value second with
          | error fault => rfl
          | ok others => exact congrArg Except.ok (List.append_assoc ..).symm

theorem exists_of_render {ps : List Piece} {symbols : List Char} (done : render value ps = .ok symbols)
    {slot : Slot} (member : .slot slot ∈ ps) : ∃ text, value slot = .ok text := by
  induction ps generalizing symbols with
  | nil => cases member
  | cons piece rest ih =>
    cases piece with
    | char c =>
      obtain ⟨others, done, -⟩ := bind_eq_ok done
      exact ih done (by simpa using member)
    | slot own =>
      obtain ⟨text, first, done⟩ := bind_eq_ok done
      obtain ⟨others, done, -⟩ := bind_eq_ok done
      rcases List.mem_cons.1 member with same | member
      · cases same
        exact ⟨text, first⟩
      · exact ih done member

theorem render_char (cs : List Char) : render value (cs.map .char) = .ok cs := by
  induction cs with
  | nil => rfl
  | cons c cs ih =>
    rw [List.map_cons, render, ih]
    rfl

end

variable {script : Script} {config : TextConfig} {state : State}

/-- A text with its placeholders filled. -/
def fillText (script : Script) (config : TextConfig) (state : State) (raw : String) :
    Except Fault String :=
  (render (slotText script config state) (pieces 0 raw.toList)).map String.ofList

theorem fill_eq_fillText (raw : String) :
    fill script config state (.text raw) = (fillText script config state raw).map .text := by
  unfold fill fillText
  dsimp only
  cases render (slotText script config state) (pieces 0 raw.toList) <;> rfl

theorem exists_of_fillText {raw filled : String} (done : fillText script config state raw = .ok filled)
    {slot : Slot} (occurs : slot.OccursIn raw) : ∃ text, slotText script config state slot = .ok text := by
  obtain ⟨symbols, done, -⟩ := map_eq_ok done
  exact exists_of_render done (slot_mem_pieces_iff.2 occurs)

theorem fillText_eq_error {raw : String} {fault : Fault}
    (failed : fillText script config state raw = .error fault) :
    ∃ slot : Slot, slot.OccursIn raw ∧ slotText script config state slot = .error fault := by
  unfold fillText at failed
  cases run : render (slotText script config state) (pieces 0 raw.toList) with
  | ok symbols =>
    rw [run] at failed
    cases failed
  | error first =>
    rw [run] at failed
    cases failed
    obtain ⟨slot, member, failed⟩ := render_eq_error run
    exact ⟨slot, slot_mem_pieces_iff.1 member, failed⟩

theorem fillText_plain {raw : String} (none : ∀ slot : Slot, ¬slot.OccursIn raw) :
    fillText script config state raw = .ok raw := by
  have plain : pieces 0 raw.toList = raw.toList.map .char :=
    pieces_eq_map_char fun slot member => none slot (slot_mem_pieces_iff.1 member)
  unfold fillText
  rw [plain, render_char]
  exact congrArg Except.ok String.ofList_toList

theorem fillText_append (a : String) {b : String} (ends : wordEnds b.toList = true) :
    fillText script config state (a ++ b) = do
      return (← fillText script config state a) ++ (← fillText script config state b) := by
  unfold fillText
  rw [String.toList_append, pieces_append (Nat.zero_le _) ends, render_append]
  cases render (slotText script config state) (pieces 0 a.toList) with
  | error fault => rfl
  | ok first =>
    cases render (slotText script config state) (pieces 0 b.toList) with
    | error fault => rfl
    | ok second => exact congrArg Except.ok String.ofList_append

theorem fillText_token (slot : Slot) {b : String} (ends : wordEnds b.toList = true) :
    fillText script config state (slot.token ++ b) = do
      return (← slotText script config state slot) ++ (← fillText script config state b) := by
  unfold fillText
  rw [String.toList_append, pieces_token slot ends, render]
  cases slotText script config state slot with
  | error fault => rfl
  | ok text =>
    cases render (slotText script config state) (pieces 0 b.toList) with
    | error fault => rfl
    | ok symbols =>
      refine congrArg Except.ok ?_
      rw [String.ofList_append, String.ofList_toList]

/-- A placeholder alone is filled by what it stands for. -/
theorem fillText_alone (slot : Slot) :
    fillText script config state slot.token = slotText script config state slot := by
  have cut : fillText script config state (slot.token ++ "") = _ := fillText_token slot rfl
  rw [String.append_empty] at cut
  rw [cut]
  cases slotText script config state slot with
  | error fault => rfl
  | ok text => exact congrArg Except.ok String.append_empty

end Template

namespace Slot

/-- The number that a placeholder stands for has not too many digits. -/
def isWritable (state : State) : Slot → Bool
  | .days => (Value.int state.days).isWritable
  | .counter c => (Value.int (state.status.get c)).isWritable
  | _ => true

/-- What a placeholder stands for, where the exits of the site bear the labels. -/
def words (script : Script) (config : TextConfig) (state : State) (labels : List String) :
    Slot → String
  | .site => ((script.findSite? state.site).map (·.name)).getD state.site
  | .exits =>
    if (script.findSite? state.site).isSome then config.exitDelimiter.intercalate labels else ""
  | .days => toString state.days
  | .counter c => toString (state.status.get c)

/-- What is put in for a placeholder. -/
def written (script : Script) (config : TextConfig) (state : State) (labels : List String)
    (slot : Slot) : Except Fault String :=
  if slot.isWritable state then .ok (slot.words script config state labels) else .error .badNumeral

end Slot

namespace Template

theorem mapM_asText (labels : List String) : (labels.map .text).mapM asText = .ok labels := by
  induction labels with
  | nil => rfl
  | cons label rest ih =>
    rw [List.map_cons, List.mapM_cons, ih]
    rfl

variable (script : Script) (config : TextConfig) (state : State) {labels : List String}

theorem slotText_of_ne_exits {slot : Slot} (other : slot ≠ .exits) (labels : List String) :
    slotText script config state slot = slot.written script config state labels := by
  cases slot with
  | site =>
    rw [slotText, Slot.written, Slot.words]
    cases script.findSite? state.site <;> rfl
  | exits => exact absurd rfl other
  | days => rfl
  | counter c => rfl

theorem slotText_eq (labelled : ∀ site, script.findSite? state.site = some site →
    exitLabels script config site = .ok (labels.map .text)) (slot : Slot) :
    slotText script config state slot = slot.written script config state labels := by
  by_cases other : slot = .exits
  · subst other
    rw [slotText, Slot.written, Slot.words]
    cases found : script.findSite? state.site with
    | none => rfl
    | some site =>
      dsimp only
      rw [labelled site found]
      change (labels.map Value.text).mapM asText >>= _ = _
      rw [mapM_asText]
      rfl
  · exact slotText_of_ne_exits script config state other labels

/-- Filling goes by the placeholders, each the whole of its word. In front of a character that is no word
character a text can be cut, and a placeholder that ends there taken out; what is left is filled as if it
stood alone, and what the placeholder stands for is put in as it is. A text without placeholders stays as it
is. Only a number of too many digits that a placeholder stands for keeps a text from being filled. -/
theorem fill_tokens (labelled : ∀ site, script.findSite? state.site = some site →
    exitLabels script config site = .ok (labels.map .text)) :
    let filled := fillText script config state
    (∀ raw, fill script config state (.text raw) = (filled raw).map .text) ∧
      (∀ (slot : Slot) (a b : String), Slot.wordEnds b.toList = true →
        filled (a ++ slot.token ++ b) = (do
          return (← filled a) ++ (← slot.written script config state labels) ++ (← filled b)) ∧
        filled (a ++ b) = do return (← filled a) ++ (← filled b)) ∧
      (∀ raw, (∀ slot : Slot, ¬slot.OccursIn raw) → filled raw = .ok raw) ∧
      ∀ raw,
        (∀ slot : Slot, slot.OccursIn raw → slot.isWritable state = true) ∧
            (∃ text, filled raw = .ok text) ∨
          (∃ slot : Slot, slot.OccursIn raw ∧ slot.isWritable state = false) ∧
            filled raw = .error .badNumeral := by
  intro filled
  have words := slotText_eq script config state labelled
  refine ⟨fill_eq_fillText, fun slot a b ends => ⟨?_, fillText_append a ends⟩,
    fun raw none => fillText_plain none, fun raw => ?_⟩
  · have cut : Slot.wordEnds (slot.token ++ b).toList = true := by
      rw [String.toList_append]
      exact wordEnds_token slot b.toList
    rw [String.append_assoc]
    change fillText script config state (a ++ (slot.token ++ b)) = _
    rw [fillText_append a cut, fillText_token slot ends, words slot]
    simp only [bind_assoc, pure_bind, String.append_assoc]
    rfl
  · cases run : filled raw with
    | ok text =>
      refine .inl ⟨fun slot occurs => ?_, text, rfl⟩
      obtain ⟨word, told⟩ := exists_of_fillText run occurs
      rw [words slot] at told
      unfold Slot.written at told
      split at told
      · assumption
      · cases told
    | error fault =>
      obtain ⟨slot, occurs, failed⟩ := fillText_eq_error run
      rw [words slot] at failed
      unfold Slot.written at failed
      split at failed
      · cases failed
      · rename_i unwritable
        cases failed
        exact .inr ⟨⟨slot, occurs, Bool.eq_false_iff.2 unwritable⟩, rfl⟩

/-- At the mill two exits are listed. A name inside a longer word, and a lone dollar sign, stay. -/
theorem fill_tokens_mill :
    let script := Script.twoTowns
    let state : State := { site := "mill", status := { hp := 90 } }
    (∀ site, script.findSite? state.site = some site →
      exitLabels script {} site = .ok (["go to Ford", "Rest"].map .text)) ∧
      fill script {} state (.text "Ways: $ports. $hp_max $") =
        .ok (.text "Ways: go to Ford, Rest. $hp_max $") := by
  intro script state
  have labelled : ∀ site, script.findSite? state.site = some site →
      exitLabels script {} site = .ok (["go to Ford", "Rest"].map .text) := by
    intro site found
    cases found
    rfl
  obtain ⟨whole, split, -⟩ := fill_tokens script {} state labelled
  have ways := (split .exits "Ways: " ". $hp_max $" (by decide +kernel)).1
  refine ⟨labelled, ?_⟩
  have cut : "Ways: $ports. $hp_max $" = "Ways: " ++ Slot.exits.token ++ ". $hp_max $" := rfl
  rw [cut, whole, ways]
  rfl

/-- A counter of too many digits is not put in. -/
theorem unwritable_counter :
    let state : State := { site := "mill", status := { hp := Text.numeralBound } }
    fill Script.twoTowns {} state (.text "$hp") = .error .badNumeral := by
  intro state
  have unwritable : (Value.int state.status.hp).isWritable = false := by decide +kernel
  have told : slotText Script.twoTowns {} state (.counter .hp) = .error .badNumeral := by
    change (Value.int state.status.hp).toText = _
    rw [Value.toText, unwritable]
    rfl
  have cut : "$hp" = (Slot.counter .hp).token ++ "" := rfl
  rw [fill_eq_fillText, cut, fillText_token _ rfl, told]
  rfl

end Template

end Gamebook
