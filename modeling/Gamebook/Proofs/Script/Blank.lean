import Gamebook.Proofs.Script.Agreement

/-! Fields that are left blank.

A key with nothing behind it gives null. Under most optional names of a script's data null is as good as
nothing; a story, the name of a site and the text of an option are then the word `None`, and a distance is
refused.
-/

set_option autoImplicit false

namespace Gamebook

/-- How null is read under an optional name. -/
inductive Blank where
  | absent
  /-- As the text `None`. -/
  | word
  /-- Not at all: it is no number. -/
  | refused

namespace Part

/-- The names under which something may be left out, and how null is read there. -/
def optional : Part → List (String × Blank)
  | .script => [("sites", .absent), ("events", .absent)]
  | .entry => [("story", .word)]
  | .site => [("name", .word), ("ports", .absent), ("events", .absent)]
  | .exit => [("name", .absent), ("target", .absent), ("action", .absent), ("distance", .refused)]
  | .event => [("weight", .absent), ("text", .absent), ("options", .absent), ("action", .absent)]
  | .choice => [("text", .word)]
  | _ => []

theorem ne_of_optional {part : Part} {name other : String} {blank : Blank}
    (optional : (name, blank) ∈ part.optional) (without : (other, blank) ∉ part.optional) : other ≠ name :=
  fun same => without (same ▸ optional)

/-- What is taken under a name when nothing is given beside the other entries. -/
inductive Default : Part → String → Entries → Value → Prop where
  | story (rest : Entries) : Default .entry "story" rest ""
  | siteName {rest : Entries} {id : String} (named : (Entries.getD rest "id" .null).toText = .ok id) :
      Default .site "name" rest (.text id)
  | optionText (rest : Entries) : Default .choice "text" rest ""
  | distance (rest : Entries) : Default .exit "distance" rest (.int 1)

end Part

/-- Null under an optional name, and the same data without this name. -/
inductive LeftOut (blank : Blank) : Part → Value → Value → Prop where
  | field {part : Part} {name : String} (optional : (name, blank) ∈ part.optional) {mark : Option Nat}
      {front back : Entries} (once : Entries.get? (front ++ back) name = none) :
      LeftOut blank part (@Value.mapping mark (front ++ (.text name, .null) :: back))
        (@Value.mapping mark (front ++ back))

/-- Null under the name of a text, and the word `None` in its place. -/
inductive SpeltOut : Part → Value → Value → Prop where
  | field {part : Part} {name : String} (optional : (name, .word) ∈ part.optional) {mark : Option Nat}
      {front back : Entries} (first : Entries.get? front name = none) :
      SpeltOut part (@Value.mapping mark (front ++ (.text name, .null) :: back))
        (@Value.mapping mark (front ++ (.text name, .text "None") :: back))

/-- Nothing under an optional name, and what is taken there, written out. -/
inductive Assumed : Part → Value → Value → Prop where
  | field {part : Part} {name : String} {mark : Option Nat} {front back : Entries} {v : Value}
      (default : part.Default name (front ++ back) v)
      (once : Entries.get? (front ++ back) name = none) :
      Assumed part (@Value.mapping mark (front ++ back))
        (@Value.mapping mark (front ++ (.text name, v) :: back))

inductive Mistaken : Part → Value → Value → Prop where
  | field {part : Part} {name : String} (optional : (name, .word) ∈ part.optional) {mark : Option Nat}
      {front back : Entries} (once : Entries.get? (front ++ back) name = none)
      (otherwise : ¬ part.Default name (front ++ back) (.text "None")) :
      Mistaken part (@Value.mapping mark (front ++ (.text name, .null) :: back))
        (@Value.mapping mark (front ++ back))

namespace Entries

theorem Beside.symm {name : String} {entries others : Entries} (both : Beside name entries others) :
    Beside name others entries :=
  ⟨fun other apart => (both.beside other apart).symm, fun around => (both.written around).symm⟩

/-- Leaving out what can always be written. -/
theorem Beside.leave {v : Value} (written : ∀ around, v.isWritableWithin around = true) (name : String)
    (front back : Entries) : Beside name (front ++ (.text name, v) :: back) (front ++ back) where
  beside other apart := (get?_middle_of_ne apart front back v).symm
  written around := by
    simp only [Value.entriesWritable_append, Value.entriesWritable, Value.isWritableWithin, written around,
      Bool.true_and]

theorem getD_of_once {name : String} {entries : Entries} (once : get? entries name = none)
    (default : Value) : getD entries name default = default := by
  rw [getD, once, Option.getD_none]

theorem getD_middle {front : Entries} {name : String} (first : get? front name = none) (v : Value)
    (back : Entries) (default : Value) : getD (front ++ (.text name, v) :: back) name default = v := by
  rw [getD, get?_middle first, Option.getD_some]

theorem first_of_once {front back : Entries} {name : String} (once : get? (front ++ back) name = none) :
    get? front name = none := by
  rw [get?_append, Option.or_eq_none_iff] at once
  exact once.1

end Entries

/-! ### Null as nothing -/

theorem LeftOut.writtenAlike {blank : Blank} {part : Part} {v w : Value}
    (leftOut : LeftOut blank part v w) : v.WrittenAlike w := by
  obtain ⟨_, _⟩ := leftOut
  exact .mapping (Entries.Beside.leave (fun _ => rfl) _ _ _).written

theorem LeftOut.same {part : Part} {v w : Value} (leftOut : LeftOut .absent part v w) : part.Same v w := by
  cases leftOut with
  | @field name optional mark front back once =>
    have both := Entries.Beside.leave (v := .null) (fun _ => rfl) name front back
    have alike (other : String) : Entries.getD (front ++ back) other .null =
        Entries.getD (front ++ (.text name, .null) :: back) other .null := by
      by_cases apart : other = name
      · subst apart
        rw [Entries.getD_of_once once, Entries.getD_middle (Entries.first_of_once once)]
      · exact both.getD_beside apart .null
    have read (other : String) {α : Type} (read : Value → Except Fault α) :
        SameOutcome (read (Entries.getD (front ++ (.text name, .null) :: back) other .null))
          (read (Entries.getD (front ++ back) other .null)) := by
      rw [alike]
      exact .refl _
    cases part with
    | script => exact Script.read_same (read _ _) (fun _ => read _ _) (read _ _)
    | site =>
      have apart : "name" ≠ name := Part.ne_of_optional optional (by simp [Part.optional])
      exact Site.same_of_fields both.written (alike _) (fun _ _ => read _ _)
        (fun _ _ => by rw [both.getD_beside apart]) (read _ _)
    | exit =>
      have apart : "distance" ≠ name := Part.ne_of_optional optional (by simp [Part.optional])
      exact Exit.same_of_fields (alike _) (alike _) (read _ _) (by rw [both.getD_beside apart])
    | event =>
      have apart : "id" ≠ name := Part.ne_of_optional optional (by simp [Part.optional])
      exact Event.same_of_fields both.written
        ⟨both.beside _ apart, alike _, alike _, read _ _, read _ _⟩
    | _ => simp [Part.optional] at optional

/-! ### Null as a word -/

/-- Under the name of a text, what is written out the same is read alike. -/
theorem Part.same_of_texts {part : Part} {name : String} (optional : (name, .word) ∈ part.optional)
    {mark : Option Nat} {entries others : Entries} (both : Entries.Beside name entries others)
    (texts : ∀ default, part.Default name entries default →
      (Entries.getD others name default).toText = (Entries.getD entries name default).toText) :
    part.Same (@Value.mapping mark entries) (@Value.mapping mark others) := by
  cases part with
  | entry =>
    obtain rfl : name = "story" := by simpa [Part.optional] using optional
    exact Script.readEntry_same (both.getD_beside (by decide) _) (texts _ (.story _))
  | site =>
    obtain rfl : name = "name" := by simpa [Part.optional] using optional
    exact Site.same_of_fields both.written (both.getD_beside (by decide) _)
      (fun _ _ => both.read_same (by decide) _) (fun site named => texts _ (.siteName named))
      (both.read_same (by decide) _)
  | choice =>
    obtain rfl : name = "text" := by simpa [Part.optional] using optional
    refine Choice.same_of_fields both.written ?_ (texts _ (.optionText _))
    have action := both.beside "action" (by decide)
    cases given : Entries.get? entries "action" with
    | none => exact .inl ⟨rfl, action.trans given⟩
    | some v => exact .inr ⟨v, v, rfl, action.trans given, .refl _⟩
  | _ => simp [Part.optional] at optional

theorem SpeltOut.replaced {name : String} {front : Entries} (first : Entries.get? front name = none)
    (back : Entries) : Entries.Replaced name .null "None" (front ++ (.text name, .null) :: back)
      (front ++ (.text name, .text "None") :: back) :=
  .middle first (v := .null) (w := .text "None") (fun _ => rfl) back

theorem SpeltOut.writtenAlike {part : Part} {v w : Value} (speltOut : SpeltOut part v w) :
    v.WrittenAlike w := by
  obtain ⟨_, first⟩ := speltOut
  exact .mapping (replaced first _).written

theorem SpeltOut.same {part : Part} {v w : Value} (speltOut : SpeltOut part v w) : part.Same v w := by
  obtain ⟨optional, first⟩ := speltOut
  refine Part.same_of_texts optional (replaced first _).toBeside fun default _ => ?_
  rw [(replaced first _).getD_new, (replaced first _).getD_old]
  rfl

/-! ### What is taken for nothing -/

theorem Part.Default.isWritable {part : Part} {name : String} {rest : Entries} {v : Value}
    (default : part.Default name rest v) (around : List Nat) : v.isWritableWithin around = true := by
  cases default with
  | distance =>
    have within : (Value.int 1).isWritable = true := by decide +kernel
    exact within
  | _ => rfl

theorem Part.Default.unique {part : Part} {name : String} {rest : Entries} {v w : Value}
    (default : part.Default name rest v) (other : part.Default name rest w) : v = w := by
  cases default with
  | siteName named =>
    cases other with
    | siteName again => rw [Except.ok.inj (named.symm.trans again)]
  | _ =>
    cases other
    rfl

theorem Assumed.writtenAlike {part : Part} {v w : Value} (assumed : Assumed part v w) :
    v.WrittenAlike w := by
  obtain ⟨default, _⟩ := assumed
  exact .mapping (Entries.Beside.leave default.isWritable _ _ _).symm.written

theorem Assumed.same {part : Part} {v w : Value} (assumed : Assumed part v w) : part.Same v w := by
  cases assumed with
  | @field name mark front back v default once =>
    have both := (Entries.Beside.leave default.isWritable name front back).symm
    have alike : Entries.getD (front ++ (.text name, v) :: back) name v =
        Entries.getD (front ++ back) name v := by
      rw [Entries.getD_middle (Entries.first_of_once once), Entries.getD_of_once once]
    have texts (other : Value) (also : part.Default name (front ++ back) other) :
        (Entries.getD (front ++ (.text name, v) :: back) name other).toText =
          (Entries.getD (front ++ back) name other).toText := by
      rw [← default.unique also, alike]
    cases default with
    | story => exact Part.same_of_texts (by simp [Part.optional]) both texts
    | siteName => exact Part.same_of_texts (by simp [Part.optional]) both texts
    | optionText => exact Part.same_of_texts (by simp [Part.optional]) both texts
    | distance =>
      exact Exit.same_of_fields (both.getD_beside (by decide) _) (both.getD_beside (by decide) _)
        (both.read_same (by decide) _) (by rw [alike])

/-! ### Null that is mistaken for a word -/

theorem Part.Default.exists_text {part : Part} {name : String} {rest : Entries} {v : Value}
    (optional : (name, .word) ∈ part.optional) (default : part.Default name rest v) :
    ∃ words, v = .text words := by
  cases default with
  | distance => simp [Part.optional] at optional
  | _ => exact ⟨_, rfl⟩

/-- What is read as one and the same has the same text under such a name. -/
theorem Part.Agree.exists_default {part : Part} {name : String} (optional : (name, .word) ∈ part.optional)
    {mark : Option Nat} {entries others : Entries}
    (agree : part.Agree (@Value.mapping mark entries) (@Value.mapping mark others)) :
    ∃ default, part.Default name others default ∧
      (Entries.getD entries name default).toText = (Entries.getD others name default).toText := by
  cases part with
  | entry =>
    obtain rfl : name = "story" := by simpa [Part.optional] using optional
    obtain ⟨entry, one, other⟩ := agree
    exact ⟨_, .story _, one.story.trans other.story.symm⟩
  | site =>
    obtain rfl : name = "name" := by simpa [Part.optional] using optional
    obtain ⟨shared, site, one, other⟩ := agree
    exact ⟨_, .siteName (Value.asId?_eq_some_iff.1 other.id).2, one.name.trans other.name.symm⟩
  | choice =>
    obtain rfl : name = "text" := by simpa [Part.optional] using optional
    obtain ⟨choice, one, other⟩ := agree
    obtain ⟨text, written, same⟩ := one.parts.2
    obtain ⟨otherText, otherWritten, otherSame⟩ := other.parts.2
    obtain rfl : text = otherText := Value.text.inj (same.symm.trans otherSame)
    exact ⟨_, .optionText _, written.trans otherWritten.symm⟩
  | _ => simp [Part.optional] at optional

theorem Mistaken.leftOut {part : Part} {v w : Value} (mistaken : Mistaken part v w) :
    LeftOut .word part v w := by
  obtain ⟨optional, once, -⟩ := mistaken
  exact .field optional once

theorem Mistaken.not_agree {part : Part} {v w : Value} (mistaken : Mistaken part v w) :
    ¬ part.Agree v w := by
  obtain ⟨optional, once, otherwise⟩ := mistaken
  intro agree
  obtain ⟨default, taken, texts⟩ := agree.exists_default optional
  obtain ⟨words, rfl⟩ := taken.exists_text optional
  rw [Entries.getD_middle (Entries.first_of_once once), Entries.getD_of_once once, Value.toText_text] at texts
  obtain rfl : "None" = words := Except.ok.inj texts
  exact otherwise taken

/-! ### Null as no number -/

/-- The first is refused, and if the second is not, then for what is no number. -/
structure Spoilt {α : Type} (x y : Except Fault α) : Prop where
  refused : ∃ fault, x = .error fault
  alone : ∀ a, y = .ok a → x = .error .notNumber

namespace Spoilt

variable {α β : Type} {x y : Except Fault α}

theorem of_refused (fault other : Fault) : Spoilt (.error fault : Except Fault α) (.error other) :=
  ⟨⟨fault, rfl⟩, fun _ done => by cases done⟩

theorem bind (spoilt : Spoilt x y) (next other : α → Except Fault β) :
    Spoilt (x >>= next) (y >>= other) := by
  obtain ⟨⟨fault, rfl⟩, alone⟩ := spoilt
  refine ⟨⟨fault, rfl⟩, fun b done => ?_⟩
  obtain ⟨a, made, -⟩ := bind_eq_ok done
  obtain rfl : fault = .notNumber := Except.error.inj (alone a made)
  rfl

theorem after (x : Except Fault α) {next other : α → Except Fault β}
    (rest : ∀ a, x = .ok a → Spoilt (next a) (other a)) : Spoilt (x >>= next) (x >>= other) := by
  cases x with
  | error fault => exact of_refused fault fault
  | ok a => exact rest a rfl

theorem mapM {f : β → Except Fault α} {v w : β} (spoilt : Spoilt (f v) (f w)) (front back : List β) :
    Spoilt ((front ++ v :: back).mapM f) ((front ++ w :: back).mapM f) := by
  induction front with
  | nil =>
    rw [List.nil_append, List.nil_append, List.mapM_cons, List.mapM_cons]
    exact spoilt.bind _ _
  | cons item rest ih =>
    rw [List.cons_append, List.cons_append, List.mapM_cons, List.mapM_cons]
    exact .after _ fun _ _ => ih.bind _ _

end Spoilt

/-- A part in which a distance is null, and the part without it. Only sites and their exits have one. -/
def Part.Spoilt : Part → Value → Value → Prop
  | .script, v, w => Gamebook.Spoilt (Script.read v) (Script.read w)
  | .sites, v, w => ∀ shared,
    Gamebook.Spoilt (readItems (Site.read shared) v) (readItems (Site.read shared) w)
  | .site, v, w => ∀ shared, Gamebook.Spoilt (Site.read shared v) (Site.read shared w)
  | .exits, v, w => Gamebook.Spoilt (readItems Exit.read v) (readItems Exit.read w)
  | .exit, v, w => Gamebook.Spoilt (Exit.read v) (Exit.read w)
  | _, _, _ => False

theorem LeftOut.spoilt {part : Part} {v w : Value} (leftOut : LeftOut .refused part v w) :
    part.Spoilt v w := by
  cases leftOut with
  | @field name optional mark front back once =>
    cases part with
    | exit =>
      obtain rfl : name = "distance" := by simpa [Part.optional] using optional
      have both := Entries.Beside.leave (v := .null) (fun _ => rfl) "distance" front back
      rw [Part.Spoilt, Exit.read_mapping, Exit.read_mapping, both.getD_beside (by decide),
        Entries.getD_middle (Entries.first_of_once once)]
      exact .after _ fun _ _ => ⟨⟨_, rfl⟩, fun _ _ => rfl⟩
    | _ => simp [Part.optional] at optional

theorem Altered.spoilt {part : Part} {v w : Value} (altered : Altered (LeftOut .refused) part v w) :
    part.Spoilt v w := by
  induction altered with
  | here leftOut => exact leftOut.spoilt
  | @field _ _ _ front back _ v w holds first altered ih =>
    have written := altered.writtenAlike fun _ _ _ => LeftOut.writtenAlike
    have replaced := Entries.Replaced.middle first written back
    cases holds with
    | sites =>
      rw [Part.Spoilt, Script.read_mapping, Script.read_mapping, replaced.getD_old, replaced.getD_new,
        replaced.getD_beside (by decide)]
      exact .after _ fun _ _ => .after _ fun _ _ => (ih _).bind _ _
    | exits =>
      intro shared
      rw [Site.read_mapping, Site.read_mapping, replaced.getD_old, replaced.getD_new,
        replaced.getD_beside (by decide), replaced.getD_beside (by decide)]
      split
      · refine .after _ fun _ _ => .after _ fun _ _ => ?_
        rw [replaced.getD_beside (by decide)]
        exact .after _ fun _ _ => ih.bind _ _
      · exact .of_refused _ _
    | _ => exact ih.elim
  | item lists altered ih =>
    cases lists with
    | sites =>
      intro shared
      rw [readItems_list, readItems_list]
      exact (ih shared).mapM _ _
    | exits =>
      rw [Part.Spoilt, readItems_list, readItems_list]
      exact ih.mapM _ _
    | _ => exact ih.elim

/-! ### All of them -/

/-- What null means under an optional name, at whatever depth of a script's data. Under most it means
nothing. As a story, as the name of a site and as the text of an option it means the word `None`; and what is
left out means what is taken for it, so that the two are never read as the same script unless that is the
word itself. A distance that is null is refused. -/
theorem Script.null_means {v w : Value} :
    (Altered (LeftOut .absent) .script v w → SameOutcome (read v) (read w)) ∧
      (Altered SpeltOut .script v w → SameOutcome (read v) (read w)) ∧
      (Altered Assumed .script v w → SameOutcome (read v) (read w)) ∧
      (Altered Mistaken .script v w → ∀ script, read v = .ok script → read w ≠ .ok script) ∧
      (Altered (LeftOut .refused) .script v w → Spoilt (read v) (read w)) := by
  refine ⟨fun altered => ?_, fun altered => ?_, fun altered => ?_, fun altered script one other => ?_,
    Altered.spoilt⟩
  · exact altered.same (fun _ _ _ => LeftOut.writtenAlike) fun _ _ _ => LeftOut.same
  · exact altered.same (fun _ _ _ => SpeltOut.writtenAlike) fun _ _ _ => SpeltOut.same
  · exact altered.same (fun _ _ _ => Assumed.writtenAlike) fun _ _ _ => Assumed.same
  · obtain ⟨inner, before, after, mistaken, agree⟩ :=
      altered.agree (fun _ _ _ mistaken => mistaken.leftOut.writtenAlike)
        ⟨script, Script.read_iff.1 one, Script.read_iff.1 other⟩
    exact mistaken.not_agree agree

def Value.bareFord (entry site exit : Entries) : Value :=
  .ofEntries [
    ("entry", .ofEntries (("site", "ford") :: entry)),
    ("sites", .ofList [
      .ofEntries (("id", "ford") :: ("ports", .ofList [.ofEntries (("target", "ford") :: exit)]) :: site)])]

section

variable {change : Part → Value → Value → Prop} {entries others : Entries}

theorem Altered.entry_ford
    (altered : Altered change .entry (.ofEntries (("site", "ford") :: entries))
      (.ofEntries (("site", "ford") :: others))) :
    Altered change .script (Value.bareFord entries [] []) (Value.bareFord others [] []) :=
  @field _ _ _ _ [] _ _ _ _ .entry rfl altered

theorem Altered.site_ford
    (altered : Altered change .site
      (.ofEntries (("id", "ford") :: ("ports", .ofList [.ofEntries [("target", "ford")]]) :: entries))
      (.ofEntries (("id", "ford") :: ("ports", .ofList [.ofEntries [("target", "ford")]]) :: others))) :
    Altered change .script (Value.bareFord [] entries []) (Value.bareFord [] others []) :=
  @field _ _ _ _ [("entry", .ofEntries [("site", "ford")])] _ _ _ _ .sites (by decide +kernel)
    (@item _ _ _ _ [] _ _ _ .sites altered)

theorem Altered.exit_ford
    (altered : Altered change .exit (.ofEntries (("target", "ford") :: entries))
      (.ofEntries (("target", "ford") :: others))) :
    Altered change .script (Value.bareFord [] [] entries) (Value.bareFord [] [] others) :=
  @field _ _ _ _ [("entry", .ofEntries [("site", "ford")])] _ _ _ _ .sites (by decide +kernel)
    (@item _ _ _ _ [] _ _ _ .sites
      (@field _ _ _ _ [("id", "ford")] _ _ _ _ .exits (by decide +kernel)
        (@item _ _ _ _ [] _ _ _ .exits altered)))

end

theorem Script.null_means_bareFord :
    SameOutcome (read (Value.bareFord [] [] [("name", .null)])) (read (Value.bareFord [] [] [])) ∧
      SameOutcome (read (Value.bareFord [("story", .null)] [] []))
        (read (Value.bareFord [("story", "None")] [] [])) ∧
      SameOutcome (read (Value.bareFord [] [] [])) (read (Value.bareFord [] [("name", "ford")] [])) ∧
      (∃ script, read (Value.bareFord [("story", .null)] [] []) = .ok script ∧
        read (Value.bareFord [] [] []) ≠ .ok script) ∧
      read (Value.bareFord [] [] [("distance", .null)]) = .error .notNumber := by
  have blankStory : (read (Value.bareFord [("story", .null)] [] [])).map (·.entry.story) = .ok "None" := rfl
  have noStory : (read (Value.bareFord [] [] [])).map (·.entry.story) = .ok "" := rfl
  obtain ⟨blank, blankRead, -⟩ := map_eq_ok blankStory
  obtain ⟨bare, bareRead, -⟩ := map_eq_ok noStory
  refine ⟨null_means.1 (.exit_ford (.here ?_)), null_means.2.1 (.entry_ford (.here ?_)),
    null_means.2.2.1 (.site_ford (.here ?_)),
    ⟨blank, blankRead, null_means.2.2.2.1 (.entry_ford (.here ?_)) _ blankRead⟩,
    (null_means.2.2.2.2 (.exit_ford (.here ?_))).alone _ bareRead⟩
  · exact @LeftOut.field _ _ "name" (by simp [Part.optional]) _ [("target", "ford")] [] (by decide +kernel)
  · exact @SpeltOut.field _ "story" (by simp [Part.optional]) _ [("site", "ford")] [] (by decide +kernel)
  · exact @Assumed.field _ "name" _ [("id", "ford"), _] [] _ (.siteName rfl) (by decide +kernel)
  · exact @Mistaken.field _ "story" (by simp [Part.optional]) _ [("site", "ford")] [] (by decide +kernel)
      fun taken => absurd (Value.text.inj (taken.unique (.story _))) (by decide)
  · exact @LeftOut.field _ _ "distance" (by simp [Part.optional]) _ [("target", "ford")] []
      (by decide +kernel)

end Gamebook
