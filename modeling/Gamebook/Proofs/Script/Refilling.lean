import Gamebook.Proofs.Script.Description
import Gamebook.Proofs.Script.Placeholder

/-! Filling a text that has been filled.

Filling puts names in as they are, and is done in one pass. So a second filling finds the placeholders that
the first one has left or made: those that stand in a name, and those that a name completes behind a dollar
sign of the text. Where there are none, the second filling changes nothing.
-/

set_option autoImplicit false

namespace Gamebook

namespace Slot

def isAuthored : Slot → Bool
  | .site | .exits => true
  | .days | .counter _ => false

/-- The characters begin a word, and where it would go on stands a placeholder for words of the author. -/
def Begun (word cs : List Char) : Prop :=
  ∃ (start more : List Char) (next : Slot) (rest : List Char), word = start ++ more ∧ more ≠ [] ∧
    cs = start ++ next.token.toList ++ rest ∧ wordEnds rest = true ∧ next.isAuthored = true

/-- A dollar sign of the text begins a placeholder of this kind, which words of the author may complete. -/
def BegunIn (slot : Slot) (raw : String) : Prop :=
  ∃ before after, raw.toList = before ++ '$' :: after ∧ Begun slot.name.toList after

theorem Begun.cons {word cs : List Char} (begun : Begun word cs) (c : Char) :
    Begun (c :: word) (c :: cs) := by
  obtain ⟨start, more, next, rest, rfl, proper, rfl, ends, authored⟩ := begun
  exact ⟨c :: start, more, next, rest, rfl, proper, rfl, ends, authored⟩

theorem isAlpha_of_mem_name (slot : Slot) : ∀ c ∈ slot.name.toList, c.isAlpha = true := by
  have letters : (all.all fun slot => slot.name.toList.all Char.isAlpha) = true := by decide +kernel
  exact List.all_eq_true.1 (List.all_eq_true.1 letters slot slot.mem_all)

end Slot

namespace Template

open Slot

theorem exists_of_pieces_eq_append {cs : List Char} {skip : Nat} {front back : List Piece} {c : Char}
    (cut : pieces skip cs = front ++ .char c :: back) :
    ∃ before after, cs = before ++ c :: after ∧ pieces 0 after = back ∧
      (c = '$' → at? after = none) := by
  induction cs generalizing skip front with
  | nil => cases skip <;> simp [pieces] at cut
  | cons d cs ih =>
    have later {skip : Nat} {front : List Piece} (cut : pieces skip cs = front ++ .char c :: back) :
        ∃ before after, d :: cs = before ++ c :: after ∧ pieces 0 after = back ∧
          (c = '$' → at? after = none) := by
      obtain ⟨before, after, rfl, kept, none⟩ := ih cut
      exact ⟨d :: before, after, rfl, kept, none⟩
    -- the first piece is the character itself or a placeholder, or it belongs to what is in front
    cases skip with
    | succ skip => exact later cut
    | zero =>
      rw [pieces] at cut
      by_cases dollar : d = '$'
      · rw [if_pos dollar] at cut
        cases found : at? cs with
        | some slot =>
          simp only [found] at cut
          cases front with
          | nil => simp at cut
          | cons piece front => exact later (List.cons.inj cut).2
        | none =>
          simp only [found] at cut
          cases front with
          | nil =>
            obtain ⟨same, rest⟩ := List.cons.inj cut
            cases same
            exact ⟨[], cs, rfl, rest, fun _ => found⟩
          | cons piece front => exact later (List.cons.inj cut).2
      · rw [if_neg dollar] at cut
        cases front with
        | nil =>
          obtain ⟨same, rest⟩ := List.cons.inj cut
          cases same
          exact ⟨[], cs, rfl, rest, fun same => absurd same dollar⟩
        | cons piece front => exact later (List.cons.inj cut).2

variable {value : Slot → Except Fault String}

theorem exists_of_render_eq_append {ps : List Piece} {before after : List Char} {c : Char}
    (done : render value ps = .ok (before ++ c :: after)) :
    (∃ slot text, .slot slot ∈ ps ∧ value slot = .ok text ∧ c ∈ text.toList) ∨
      ∃ front back, ps = front ++ .char c :: back ∧ render value back = .ok after := by
  induction ps generalizing before with
  | nil => simp [render] at done
  | cons piece rest ih =>
    have later {before : List Char} (done : render value rest = .ok (before ++ c :: after)) :
        (∃ slot text, .slot slot ∈ piece :: rest ∧ value slot = .ok text ∧ c ∈ text.toList) ∨
          ∃ front back, piece :: rest = front ++ .char c :: back ∧ render value back = .ok after := by
      rcases ih done with ⟨slot, text, member, told, within⟩ | ⟨front, back, rfl, rendered⟩
      · exact .inl ⟨slot, text, List.mem_cons_of_mem _ member, told, within⟩
      · exact .inr ⟨piece :: front, back, rfl, rendered⟩
    cases piece with
    | char d =>
      obtain ⟨symbols, rendered, same⟩ := bind_eq_ok done
      have same : d :: symbols = before ++ c :: after := Except.ok.inj same
      cases before with
      | nil =>
        obtain ⟨rfl, rfl⟩ := List.cons.inj same
        exact .inr ⟨[], rest, rfl, rendered⟩
      | cons d' before =>
        obtain ⟨rfl, rfl⟩ := List.cons.inj same
        exact later rendered
    | slot slot =>
      obtain ⟨text, told, done⟩ := bind_eq_ok done
      obtain ⟨symbols, rendered, same⟩ := bind_eq_ok done
      have same : text.toList ++ symbols = before ++ c :: after := Except.ok.inj same
      rcases List.append_eq_append_iff.1 same with ⟨between, rfl, rfl⟩ | ⟨between, split, kept⟩
      · exact later rendered
      · cases between with
        | nil =>
          -- the character comes first behind the value
          have kept : symbols = [] ++ c :: after := kept.symm
          rw [kept] at rendered
          exact later rendered
        | cons d between =>
          obtain ⟨rfl, -⟩ := List.cons.inj kept
          exact .inl ⟨slot, text, List.mem_cons_self, told, by rw [split]; simp⟩

/-- Where a word of letters is rendered, the text holds the word, or begins it only: what completes the word
is no number. -/
theorem word_or_begun {word cs after : List Char} (letters : ∀ c ∈ word, c.isAlpha = true)
    (numbers : ∀ (slot : Slot) (text : String), slot.isAuthored = false → value slot = .ok text →
      ∃ c rest, text.toList = c :: rest ∧ c.isAlpha = false)
    (ends : wordEnds after = true) (done : render value (pieces 0 cs) = .ok (word ++ after)) :
    (∃ rest, cs = word ++ rest ∧ wordEnds rest = true) ∨ Begun word cs := by
  induction word generalizing cs with
  | nil =>
    refine .inl ⟨cs, rfl, ?_⟩
    cases cs with
    | nil => rfl
    | cons d rest =>
      by_cases dollar : d = '$'
      · rw [dollar]
        exact wordEnds_dollar rest
      · -- the character is kept, and it stands behind the word
        rw [pieces, if_neg dollar] at done
        obtain ⟨symbols, -, same⟩ := bind_eq_ok done
        have same : d :: symbols = after := Except.ok.inj same
        rw [← same] at ends
        exact ends
  | cons c word ih =>
    have letter : c.isAlpha = true := letters c List.mem_cons_self
    cases cs with
    | nil => simp [pieces, render] at done
    | cons d rest =>
      rw [pieces] at done
      by_cases dollar : d = '$'
      · subst dollar
        rw [if_pos rfl] at done
        cases found : at? rest with
        | none =>
          simp only [found] at done
          obtain ⟨symbols, -, same⟩ := bind_eq_ok done
          have same : '$' :: symbols = c :: (word ++ after) := Except.ok.inj same
          rw [← (List.cons.inj same).1] at letter
          exact absurd letter (by decide)
        | some next =>
          simp only [found] at done
          obtain ⟨text, told, done⟩ := bind_eq_ok done
          obtain ⟨symbols, -, same⟩ := bind_eq_ok done
          have same : text.toList ++ symbols = c :: (word ++ after) := Except.ok.inj same
          obtain ⟨rest, rfl, ended⟩ := exists_of_at? found
          have authored : next.isAuthored = true := by
            cases authored : next.isAuthored with
            | true => rfl
            | false =>
              obtain ⟨first, others, first_of, other⟩ := numbers next text authored told
              rw [first_of, List.cons_append] at same
              rw [(List.cons.inj same).1, letter] at other
              cases other
          exact .inr ⟨[], c :: word, next, rest, rfl, by simp, by simp [token], ended, authored⟩
      · rw [if_neg dollar] at done
        obtain ⟨symbols, rendered, same⟩ := bind_eq_ok done
        have same : d :: symbols = c :: (word ++ after) := Except.ok.inj same
        obtain ⟨rfl, rfl⟩ := List.cons.inj same
        rcases ih (fun c member => letters c (List.mem_cons_of_mem _ member)) rendered with
          ⟨rest, rfl, ended⟩ | begun
        · exact .inl ⟨rest, rfl, ended⟩
        · exact .inr (begun.cons d)

theorem not_isAlpha_of_isDigit {c : Char} (digit : c.isDigit = true) : c.isAlpha = false := by
  have high : c.val ≤ 57 := of_decide_eq_true (Bool.and_eq_true_iff.1 digit).2
  have upper : ¬65 ≤ c.val := UInt32.not_le.2 (UInt32.lt_of_le_of_lt high (by decide))
  have lower : ¬97 ≤ c.val := UInt32.not_le.2 (UInt32.lt_of_le_of_lt high (by decide))
  refine Bool.or_eq_false_iff.2 ⟨decide_eq_false fun letter => upper letter.1, ?_⟩
  exact Bool.and_eq_false_iff.2 (.inl (decide_eq_false lower))

variable {script : Script} {config : TextConfig} {state : State}

theorem slotText_number {slot : Slot} {text : String} (number : slot.isAuthored = false)
    (told : slotText script config state slot = .ok text) :
    ∃ c rest, text.toList = c :: rest ∧ c.isAlpha = false := by
  have written {n : Int} (told : (Value.int n).toText = .ok text) :
      ∃ c rest, text.toList = c :: rest ∧ c.isAlpha = false := by
    have digits : text = toString n := by
      unfold Value.toText at told
      split at told
      · exact (Except.ok.inj told).symm
      · cases told
    cases whole : text.toList with
    | nil =>
      have empty : text = "" := String.toList_eq_nil_iff.1 whole
      exact absurd (digits.symm.trans empty) (Value.toString_int_ne_empty n)
    | cons c rest =>
      refine ⟨c, rest, rfl, ?_⟩
      have member : c ∈ (toString n).toList := by rw [← digits, whole]; exact List.mem_cons_self
      rcases Text.eq_minus_or_isDigit member with rfl | digit
      · rfl
      · exact not_isAlpha_of_isDigit digit
  cases slot with
  | days => exact written told
  | counter c => exact written told
  | _ => cases number

/-- A placeholder in a text that has been filled stands in a name, or a name completes it behind a dollar
sign of the text. -/
theorem occursIn_filled {raw once : String} (done : fillText script config state raw = .ok once)
    {slot : Slot} (occurs : slot.OccursIn once) :
    (∃ own text, own.OccursIn raw ∧ slotText script config state own = .ok text ∧ '$' ∈ text.toList) ∨
      slot.BegunIn raw := by
  obtain ⟨before, after, rfl, ends⟩ := occurs
  obtain ⟨symbols, rendered, same⟩ := map_eq_ok done
  have whole : symbols = before.toList ++ '$' :: (slot.name.toList ++ after.toList) := by
    rw [← String.toList_ofList (l := symbols), same]
    simp [token]
  rw [whole] at rendered
  rcases exists_of_render_eq_append rendered with
    ⟨own, text, member, told, dollar⟩ | ⟨front, back, cut, rendered⟩
  · exact .inl ⟨own, text, slot_mem_pieces_iff.1 member, told, dollar⟩
  · right
    obtain ⟨early, late, split, rfl, none⟩ := exists_of_pieces_eq_append cut
    refine ⟨early, late, split, ?_⟩
    rcases word_or_begun slot.isAlpha_of_mem_name (fun _ _ => slotText_number) ends rendered with
      ⟨rest, rfl, ended⟩ | begun
    · -- the whole placeholder would stand in the text already
      have found := at?_name slot ended
      rw [none rfl] at found
      cases found
    · exact begun

theorem fillText_dollar : fillText script config state "$" = .ok "$" := rfl

/-- A second filling changes nothing where the first one leaves no placeholder. One that it leaves stands in
what has been put in, or is completed by it: so there is none if what is put in holds no dollar sign and no
dollar sign of the text begins a placeholder in front of another. Either does happen: what is put in for a
placeholder may be a placeholder, or the name of one. -/
theorem fill_twice {raw : String} {filled : Value}
    (done : fill script config state (.text raw) = .ok filled) :
    (∃ once, filled = .text once ∧
      (∀ slot : Slot, slot.OccursIn once →
        (∃ own text, own.OccursIn raw ∧ slotText script config state own = .ok text ∧
          '$' ∈ text.toList) ∨ slot.BegunIn raw) ∧
      ((∀ slot : Slot, ¬slot.OccursIn once) → fill script config state filled = .ok filled)) ∧
    ((∀ own text, own.OccursIn raw → slotText script config state own = .ok text → '$' ∉ text.toList) →
      (∀ slot : Slot, ¬slot.BegunIn raw) → fill script config state filled = .ok filled) ∧
    ∀ own slot : Slot,
      (slotText script config state own = .ok slot.token →
        fill script config state (.text own.token) = .ok (.text slot.token)) ∧
      (slotText script config state own = .ok slot.name →
        fill script config state (.text ("$" ++ own.token)) = .ok (.text slot.token)) ∧
      fill script config state (.text slot.token) = (slotText script config state slot).map .text := by
  rw [fill_eq_fillText] at done
  obtain ⟨once, run, rfl⟩ := map_eq_ok done
  have still (none : ∀ slot : Slot, ¬slot.OccursIn once) :
      fill script config state (.text once) = .ok (.text once) := by
    rw [fill_eq_fillText, fillText_plain none]
    rfl
  refine ⟨⟨once, rfl, fun slot => occursIn_filled run, still⟩, fun plain unbegun => still ?_,
    fun own slot => ⟨fun told => ?_, fun told => ?_, ?_⟩⟩
  · intro slot occurs
    rcases occursIn_filled run occurs with ⟨own, text, stands, told, dollar⟩ | begun
    · exact plain own text stands told dollar
    · exact unbegun slot begun
  · rw [fill_eq_fillText, fillText_alone, told]
    rfl
  · have ends : wordEnds own.token.toList = true := by
      simpa using wordEnds_token own []
    rw [fill_eq_fillText, fillText_append "$" ends, fillText_dollar, fillText_alone, told]
    rfl
  · rw [fill_eq_fillText, fillText_alone]

end Template

def Script.mirrorInn : Script where
  sites := [{ id := "inn", name := "$hp" }]
  events := []
  entry := { site := "inn" }

namespace Template

open Slot

theorem fill_twice_mirrorInn :
    let mill : State := { site := "mill" }
    let inn : State := { site := "inn", status := { hp := 90 } }
    fill Script.twoTowns {} mill (.text "To $site$") = .ok (.text "To Mill$") ∧
      fill Script.twoTowns {} mill (.text "To Mill$") = .ok (.text "To Mill$") ∧
      fill Script.mirrorInn {} inn (.text "$site") = .ok (.text "$hp") ∧
      fill Script.mirrorInn {} inn (.text "$hp") = .ok (.text "90") := by
  intro mill inn
  have cut : pieces 0 "To $site$".toList =
      "To ".toList.map .char ++ [.slot .site, .char '$'] := by decide +kernel
  have once : fill Script.twoTowns {} mill (.text "To $site$") = .ok (.text "To Mill$") := by
    rw [fill_eq_fillText, fillText, cut]
    rfl
  obtain ⟨⟨text, same, -, still⟩, -⟩ := fill_twice once
  cases same
  have named : slotText Script.mirrorInn {} inn .site = .ok (Slot.counter .hp).token := rfl
  have writable : (Value.int 90).isWritable = true := by decide +kernel
  have counted : slotText Script.mirrorInn {} inn (.counter .hp) = .ok "90" :=
    Value.toText_of_isWritable writable
  have shown : fill Script.mirrorInn {} inn (.text "$site") = .ok (.text "$hp") := rfl
  obtain ⟨-, -, becomes⟩ := fill_twice shown
  obtain ⟨site, -, number⟩ := becomes .site (.counter .hp)
  rw [counted] at number
  refine ⟨once, still fun slot occurs => ?_, site named, number⟩
  have plain : pieces 0 "To Mill$".toList = "To Mill$".toList.map .char := by decide +kernel
  have member := slot_mem_pieces_iff.2 occurs
  rw [plain] at member
  simp at member

end Template

end Gamebook
