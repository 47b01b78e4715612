import Gamebook.Library.Basic
import Gamebook.Proofs.Session.Layout
import Mathlib.Data.String.Basic

/-! A script in a folder, and in one file.

An author may keep the sites and shared events of a script in files of their own, as many or as few as is
convenient. They are gathered in the order of the files' names, and what is read is what is read when all
of them stand in one file: no id names anything else.
-/

set_option autoImplicit false

namespace Gamebook

/-! ### What lies in a folder -/

namespace Tree

theorem follow?_concat {steps : List String} {name : String} (inner : name ≠ "..") {above : List Tree}
    {t : Tree} {entries : List (String × Tree)}
    (found : follow? above t steps = some (.folder entries)) :
    follow? above t (steps ++ [name]) = entries.lookup name := by
  induction steps generalizing above t with
  | nil =>
    obtain rfl : t = .folder entries := Option.some.inj found
    simp [follow?, inner]
  | cons step rest ih =>
    cases t with
    | file text => cases found
    | folder own =>
      rw [List.cons_append]
      simp only [follow?] at found ⊢
      by_cases out : step = ".."
      · rw [if_pos out] at found ⊢
        cases above with
        | nil => exact ih found
        | cons outer above => exact ih found
      · rw [if_neg out] at found ⊢
        obtain ⟨t, within, found⟩ := Option.bind_eq_some_iff.1 found
        rw [within, Option.bind_some]
        exact ih found

theorem find?_child {t : Tree} {p : Path} {entries : List (String × Tree)}
    (found : t.find? p = some (.folder entries)) {name : String} (inner : name ≠ "..") :
    t.find? (p.child name) = entries.lookup name :=
  follow?_concat inner found

theorem pairwise_namesEnding (t : Tree) (suffix : String) : (t.namesEnding suffix).Pairwise (· ≤ ·) := by
  have sorted := @List.pairwise_mergeSort String (fun a b => decide (a ≤ b))
    (fun a b c => by simpa using String.le_trans) (fun a b => by simpa using String.le_total a b)
    ((t.entries.map Prod.fst).filter (·.endsWith suffix))
  exact sorted.imp of_decide_eq_true

theorem namesEnding_eq {t : Tree} {suffix : String} {names : List String}
    (sorted : names.Pairwise (· < ·))
    (listed : names.Perm ((t.entries.map Prod.fst).filter (·.endsWith suffix))) :
    t.namesEnding suffix = names :=
  ((List.mergeSort_perm _ _).trans listed.symm).eq_of_pairwise (fun _ _ _ _ => String.le_antisymm)
    (t.pairwise_namesEnding suffix) (sorted.imp le_of_lt)

end Tree

namespace Library

/-! ### What a document holds -/

/-- The mapping that a document is read as: an empty document is an empty mapping. -/
inductive OpenedAs : Value → Value → Prop where
  | empty : OpenedAs .null (.ofEntries [])
  | mapping (mark : Option Nat) (entries : Entries) :
      OpenedAs (@Value.mapping mark entries) (@Value.mapping mark entries)

/-- The sites in a document: none in an empty one, those that it lists, or the one that it is. -/
inductive HoldsSites : Value → List Value → Prop where
  | empty : HoldsSites .null []
  | blank (mark : Option Nat) : HoldsSites (@Value.mapping mark []) []
  | one {mark : Option Nat} {entries : Entries} (filled : entries ≠ [])
      (single : Entries.get? entries "sites" = none) :
      HoldsSites (@Value.mapping mark entries) [@Value.mapping mark entries]
  | listed {mark : Option Nat} {entries : Entries} {v : Value} {sites : List Value}
      (given : Entries.get? entries "sites" = some v) (lists : v.Lists sites) :
      HoldsSites (@Value.mapping mark entries) sites

/-- The events in a document: none in an empty one, else those that it lists. -/
inductive HoldsEvents : Value → List Value → Prop where
  | empty : HoldsEvents .null []
  | listed {mark : Option Nat} {entries : Entries} {events : List Value}
      (lists : (Entries.getD entries "events" .null).Lists events) :
      HoldsEvents (@Value.mapping mark entries) events

theorem readMapping_of_openedAs {l : Library} {p : Path} {text : String} {document v : Value}
    (read : l.readText text = .ok document) (opened : OpenedAs document v) :
    l.readMapping p text = .ok v := by
  unfold readMapping
  rw [read]
  cases opened <;> rfl

/-- What is taken from the documents of a folder is what they hold; one that is passed over, being empty,
holds nothing. -/
def Takes (take : Value → Except Fault (List Value)) (holds : Value → List Value → Prop) : Prop :=
  ∀ document items, holds document items → ∃ v, OpenedAs document v ∧
    if v.isTruthy then take v = .ok items else items = []

theorem takes_sites : Takes documentSites HoldsSites := by
  intro document items holds
  cases holds with
  | empty => exact ⟨_, .empty, rfl⟩
  | blank mark => exact ⟨_, .mapping mark [], rfl⟩
  | @one mark entries filled single =>
    have given : (@Value.mapping mark entries).isTruthy = true := by simpa [Value.isTruthy] using filled
    refine ⟨_, .mapping mark entries, ?_⟩
    rw [if_pos given]
    simp only [documentSites, Value.field?, Value.entries, Except.map, single]
    rfl
  | @listed mark entries v _ given lists =>
    have filled : (@Value.mapping mark entries).isTruthy = true := by
      cases entries with
      | nil => cases given
      | cons entry rest => rfl
    refine ⟨_, .mapping mark entries, ?_⟩
    rw [if_pos filled]
    simp only [documentSites, Value.field?, Value.entries, Except.map, given]
    exact lists

theorem takes_events : Takes documentEvents HoldsEvents := by
  intro document items holds
  cases holds with
  | empty => exact ⟨_, .empty, rfl⟩
  | @listed mark entries _ lists =>
    refine ⟨_, .mapping mark entries, ?_⟩
    cases entries with
    | nil => exact lists.unique (Value.lists_list none [])
    | cons entry rest => exact lists

/-! ### How items are filed -/

/-- Items that are filed in the documents of a folder, in each as many as may be. The documents come in the
order of their names, first all of one ending and then all of the other. -/
structure Filing (l : Library) (holds : Value → List Value → Prop) (folder : Tree) where
  yaml : List String
  yml : List String
  content : String → List Value
  yamlSorted : yaml.Pairwise (· < ·)
  yamlNames : yaml.Perm ((folder.entries.map Prod.fst).filter (·.endsWith ".yaml"))
  ymlSorted : yml.Pairwise (· < ·)
  ymlNames : yml.Perm ((folder.entries.map Prod.fst).filter (·.endsWith ".yml"))
  filed : ∀ name ∈ yaml ++ yml, ∃ text document, folder.child? name = some (.file text) ∧
    l.readText text = .ok document ∧ holds document (content name)

namespace Filing

variable {l : Library} {holds : Value → List Value → Prop} {folder : Tree}

def items (f : Filing l holds folder) : List Value := (f.yaml ++ f.yml).flatMap f.content

theorem documentNames_eq (f : Filing l holds folder) : documentNames folder = f.yaml ++ f.yml := by
  rw [documentNames, Tree.namesEnding_eq f.yamlSorted f.yamlNames,
    Tree.namesEnding_eq f.ymlSorted f.ymlNames]

theorem inner (f : Filing l holds folder) {name : String} (listed : name ∈ f.yaml ++ f.yml) :
    name ≠ ".." := by
  rintro rfl
  rcases List.mem_append.1 listed with listed | listed
  · exact absurd (List.mem_filter.1 (f.yamlNames.mem_iff.1 listed)).2 (by decide +kernel)
  · exact absurd (List.mem_filter.1 (f.ymlNames.mem_iff.1 listed)).2 (by decide +kernel)

end Filing

theorem exists_of_each {open? : String → Except Fault (Option Value)}
    {take : Value → Except Fault (List Value)} {content : String → List Value} {names : List String}
    (each : ∀ name ∈ names, ∃ v, open? name = .ok (some v) ∧
      if v.isTruthy then take v = .ok (content name) else content name = []) :
    ∃ found taken, names.mapM open? = .ok found ∧
      ((found.filterMap id).filter (·.isTruthy)).mapM take = .ok taken ∧
      taken.flatten = names.flatMap content := by
  induction names with
  | nil => exact ⟨[], [], rfl, rfl, rfl⟩
  | cons name rest ih =>
    rw [List.forall_mem_cons] at each
    obtain ⟨⟨v, opened, first⟩, each⟩ := each
    obtain ⟨found, taken, others, later, gathered⟩ := ih each
    have all : (name :: rest).mapM open? = .ok (some v :: found) := by
      rw [List.mapM_cons, opened, others]
      rfl
    have kept : (some v :: found).filterMap id = v :: found.filterMap id := rfl
    by_cases filled : v.isTruthy = true
    · rw [if_pos filled] at first
      refine ⟨_, content name :: taken, all, ?_, ?_⟩
      · rw [kept, List.filter_cons_of_pos filled, List.mapM_cons, first, later]
        rfl
      · rw [List.flatten_cons, gathered, List.flatMap_cons]
    · rw [if_neg filled] at first
      refine ⟨_, taken, all, ?_, ?_⟩
      · rw [kept, List.filter_cons_of_neg filled, later]
      · rw [gathered, List.flatMap_cons, first, List.nil_append]

section

variable {l : Library} {p : Path} {entries : List (String × Tree)}
  (inFolder : l.tree.find? p = some (.folder entries))
include inFolder

/-- What is filed in a folder within the folder of a script is gathered in its order. -/
theorem documents_of_filing {take : Value → Except Fault (List Value)}
    {holds : Value → List Value → Prop} (takes : Takes take holds) {place : String} (inner : place ≠ "..")
    (filing : Filing l holds ((entries.lookup place).getD .empty)) :
    ∃ found taken, l.documents (p.child place) = .ok found ∧ found.mapM take = .ok taken ∧
      taken.flatten = filing.items := by
  have there : l.tree.find? (p.child place) = entries.lookup place := Tree.find?_child inFolder inner
  have each : ∀ name ∈ filing.yaml ++ filing.yml, ∃ v,
      l.mapping? ((p.child place).child name) = .ok (some v) ∧
        if v.isTruthy then take v = .ok (filing.content name) else filing.content name = [] := by
    intro name listed
    obtain ⟨text, document, lies, read, held⟩ := filing.filed name listed
    obtain ⟨v, opened, taken⟩ := takes _ _ held
    refine ⟨v, ?_, taken⟩
    have found : l.tree.find? ((p.child place).child name) = some (.file text) := by
      cases made : entries.lookup place with
      | none =>
        rw [made] at lies
        cases lies
      | some folder =>
        rw [made] at there lies
        cases folder with
        | file _ => cases lies
        | folder own => exact (Tree.find?_child there (filing.inner listed)).trans lies
    simp only [mapping?, found, Option.mapM_some, mappingAt, readMapping_of_openedAs read opened]
    rfl
  obtain ⟨found, taken, opened, later, gathered⟩ := exists_of_each each
  refine ⟨_, taken, ?_, later, gathered⟩
  simp only [documents, there, filing.documentNames_eq, bind, Except.bind, opened]
  rfl

theorem gather_eq_ok {text : String} {document entry : Value}
    (entryFile : entries.lookup "entry.yaml" = some (.file text)) (read : l.readText text = .ok document)
    (opened : OpenedAs document entry)
    (sites : Filing l HoldsSites ((entries.lookup "sites").getD .empty))
    (events : Filing l HoldsEvents ((entries.lookup "events").getD .empty)) :
    l.gather p = .ok (.ofEntries [("entry", entry), ("sites", .ofList sites.items),
      ("events", .ofList events.items)]) := by
  have entryThere : l.tree.find? (p.child "entry.yaml") = some (.file text) :=
    (Tree.find?_child inFolder (by decide)).trans entryFile
  obtain ⟨siteFiles, siteLists, siteDocuments, siteTaken, siteItems⟩ :=
    documents_of_filing inFolder takes_sites (by decide) sites
  obtain ⟨eventFiles, eventLists, eventDocuments, eventTaken, eventItems⟩ :=
    documents_of_filing inFolder takes_events (by decide) events
  have entryRead : l.mapping? (p.child "entry.yaml") = .ok (some entry) := by
    simp only [mapping?, entryThere, Option.mapM_some, mappingAt, readMapping_of_openedAs read opened]
    rfl
  simp only [gather, entryRead, siteDocuments, siteTaken, eventDocuments, eventTaken, bind, Except.bind,
    siteItems, eventItems, Option.getD_some]
  rfl

end

/-- A script in a folder is read from the items that are filed there. -/
theorem script_of_folder {l : Library} {p : Option Path} {entries : List (String × Tree)}
    (inFolder : l.tree.find? (p.getD l.home) = some (.folder entries)) {text : String}
    {document entry : Value} (entryFile : entries.lookup "entry.yaml" = some (.file text))
    (entryRead : l.readText text = .ok document) (opened : OpenedAs document entry)
    (sites : Filing l HoldsSites ((entries.lookup "sites").getD .empty))
    (events : Filing l HoldsEvents ((entries.lookup "events").getD .empty)) :
    l.script p = Script.read (.ofEntries [("entry", entry), ("sites", .ofList sites.items),
      ("events", .ofList events.items)]) := by
  have gathered := gather_eq_ok inFolder entryFile entryRead opened sites events
  simp only [script, scriptData, inFolder, gathered, bind, Except.bind]

theorem script_of_file {l : Library} {p : Option Path} {text : String}
    (inFile : l.tree.find? (p.getD l.home) = some (.file text)) {mark : Option Nat} {entries : Entries}
    (read : l.readText text = .ok (@Value.mapping mark entries)) :
    l.script p = Script.read (@Value.mapping mark entries) := by
  simp only [script, scriptData, inFile, readMapping_of_openedAs read (.mapping mark entries), bind,
    Except.bind]

/-- A script whose entry, sites and shared events lie in a folder, filed in as many documents as may be,
agrees with the one in a single file that lists them in any order: both can be read or neither, they have
the same entry, and each id names the same in both. The sites and events of the folder come in the order of
the documents, those of each document in its own, one for one. -/
theorem folder_agrees_with_file {l : Library} {p q : Option Path} {entries : List (String × Tree)}
    (inFolder : l.tree.find? (p.getD l.home) = some (.folder entries))
    {entryText : String} {document entry : Value}
    (entryFile : entries.lookup "entry.yaml" = some (.file entryText))
    (entryRead : l.readText entryText = .ok document) (opened : OpenedAs document entry)
    (sites : Filing l HoldsSites ((entries.lookup "sites").getD .empty))
    (events : Filing l HoldsEvents ((entries.lookup "events").getD .empty))
    {text : String} (inFile : l.tree.find? (q.getD l.home) = some (.file text))
    {mark : Option Nat} {whole : Entries} (read : l.readText text = .ok (@Value.mapping mark whole))
    (sameEntry : Entries.get? whole "entry" = some entry) {siteItems eventItems : List Value}
    (sitesListed : (Entries.getD whole "sites" .null).Lists siteItems)
    (sitesOrder : siteItems.Perm sites.items)
    (eventsListed : (Entries.getD whole "events" .null).Lists eventItems)
    (eventsOrder : eventItems.Perm events.items) :
    ((∃ one, l.script p = .ok one) ↔ ∃ other, l.script q = .ok other) ∧
      (∀ one other, l.script p = .ok one → l.script q = .ok other →
        one.entry = other.entry ∧ one.findSite? = other.findSite? ∧ one.findEvent? = other.findEvent?) ∧
      ∀ one, l.script p = .ok one →
        List.Forall₂ (Site.From one.events) sites.items one.sites ∧
          List.Forall₂ (fun item event => ∃ id, item.id? = some id ∧ Event.From id item event)
            events.items one.events := by
  have rearranged : Script.Rearranged (.ofEntries [("entry", entry), ("sites", .ofList sites.items),
      ("events", .ofList events.items)]) (@Value.mapping mark whole) := by
    refine .of sameEntry (Value.lists_list none _) eventsListed eventsOrder (Value.lists_list none _)
      sitesListed sitesOrder ?_
    exact List.forall₂_same.2 fun _ _ => .same _
  rw [script_of_folder inFolder entryFile entryRead opened sites events, script_of_file inFile read]
  refine ⟨⟨?_, ?_⟩, fun one other oneRead otherRead => ?_, fun one oneRead => ?_⟩
  · rintro ⟨one, oneRead⟩
    obtain ⟨other, otherRead, -⟩ := Script.read_of_rearranged rearranged oneRead
    exact ⟨other, otherRead⟩
  · rintro ⟨other, otherRead⟩
    obtain ⟨one, oneRead, -⟩ := Script.read_of_rearranged_back rearranged otherRead
    exact ⟨one, oneRead⟩
  · obtain ⟨_, again, alike⟩ := Script.read_of_rearranged rearranged oneRead
    rw [otherRead] at again
    cases again
    exact ⟨alike.entry.symm, alike.findSite?.symm, alike.findEvent?.symm⟩
  · obtain ⟨⟨listedEvents, listed, eventsFrom⟩, ⟨listedSites, sited, sitesFrom⟩, -, -, -⟩ :=
      Script.read_iff.1 oneRead
    cases listed.unique (Value.lists_list none _)
    cases sited.unique (Value.lists_list none _)
    exact ⟨sitesFrom, eventsFrom⟩

end Library

namespace Value

mutual

/-- Whether two values are the same mappings and lists of texts. -/
def coincide : Value → Value → Bool
  | .null, .null => true
  | .text s, .text t => s == t
  | @list none items, @list none others => itemsCoincide items others
  | @mapping none entries, @mapping none others => entriesCoincide entries others
  | _, _ => false
  termination_by structural v => v

def itemsCoincide : List Value → List Value → Bool
  | [], [] => true
  | v :: rest, w :: others => v.coincide w && itemsCoincide rest others
  | _, _ => false
  termination_by structural vs => vs

def entriesCoincide : Entries → Entries → Bool
  | [], [] => true
  | (k, v) :: rest, (l, w) :: others => k.coincide l && v.coincide w && entriesCoincide rest others
  | _, _ => false
  termination_by structural es => es

end

mutual

theorem eq_of_coincide : ∀ {v w : Value}, v.coincide w = true → v = w
  | .null, .null, _ => rfl
  | .text _, .text _, same => congrArg Value.text (eq_of_beq same)
  | @list none _, @list none _, same => congrArg _ (eq_of_itemsCoincide same)
  | @mapping none _, @mapping none _, same => congrArg _ (eq_of_entriesCoincide same)

theorem eq_of_itemsCoincide : ∀ {items others : List Value}, itemsCoincide items others = true → items = others
  | [], [], _ => rfl
  | _ :: _, _ :: _, same => by
    obtain ⟨first, rest⟩ := Bool.and_eq_true_iff.1 same
    rw [eq_of_coincide first, eq_of_itemsCoincide rest]

theorem eq_of_entriesCoincide : ∀ {entries others : Entries},
    entriesCoincide entries others = true → entries = others
  | [], [], _ => rfl
  | (_, _) :: _, (_, _) :: _, same => by
    obtain ⟨first, rest⟩ := Bool.and_eq_true_iff.1 same
    obtain ⟨key, value⟩ := Bool.and_eq_true_iff.1 first
    rw [eq_of_coincide key, eq_of_coincide value, eq_of_entriesCoincide rest]

end

end Value

theorem Yaml.read_eq_ok {text : String} {v : Value}
    (read : (Yaml.read text).toOption.any (·.coincide v) = true) : Yaml.read text = .ok v := by
  cases made : Yaml.read text with
  | error refusal =>
    rw [made] at read
    cases read
  | ok w =>
    rw [made] at read
    rw [Value.eq_of_coincide read]

namespace Library

/-! A ford and a mill, filed under both endings, and the same in one file, the other way round. -/

def twoFormsSites : Tree := .folder [
  ("b.yml", .file "sites: [\x7bid: mill\x7d]"),
  ("none.yaml", .file ""),
  ("a.yaml", .file "id: ford")]

def twoFormsEvents : Tree := .folder [("rain.yml", .file "events: [\x7bid: rain\x7d]")]

def twoFormsWhole : String :=
  "\x7bentry: \x7bsite: ford\x7d, sites: [\x7bid: mill\x7d, \x7bid: ford\x7d], events: [\x7bid: rain\x7d]\x7d"

def twoForms : Library where
  tree := .folder [
    ("whole.yaml", .file twoFormsWhole),
    ("parts", .folder [
      ("entry.yaml", .file "site: ford"),
      ("sites", twoFormsSites),
      ("events", twoFormsEvents)])]
  bundled := .read "parts"
  environment _ := none
  readText := Yaml.read

theorem readText_twoForms {text : String} {v : Value}
    (read : (Yaml.read text).toOption.any (·.coincide v) = true) : twoForms.readText text = .ok v :=
  Yaml.read_eq_ok read

def twoFormsSiteFiling : Filing twoForms HoldsSites twoFormsSites where
  yaml := ["a.yaml", "none.yaml"]
  yml := ["b.yml"]
  content name :=
    if name = "a.yaml" then [.ofEntries [("id", "ford")]]
    else if name = "b.yml" then [.ofEntries [("id", "mill")]] else []
  yamlSorted := by decide
  yamlNames := by decide +kernel
  ymlSorted := by decide
  ymlNames := by decide +kernel
  filed name listed := by
    simp only [List.cons_append, List.nil_append, List.mem_cons, List.not_mem_nil, or_false] at listed
    rcases listed with rfl | rfl | rfl
    · exact ⟨_, .ofEntries [("id", "ford")], rfl, readText_twoForms (by decide +kernel),
        .one (by simp) rfl⟩
    · exact ⟨_, .null, rfl, readText_twoForms (by decide +kernel), .empty⟩
    · exact ⟨_, .ofEntries [("sites", .ofList [.ofEntries [("id", "mill")]])], rfl,
        readText_twoForms (by decide +kernel), .listed rfl (Value.lists_list none _)⟩

def twoFormsEventFiling : Filing twoForms HoldsEvents twoFormsEvents where
  yaml := []
  yml := ["rain.yml"]
  content _ := [.ofEntries [("id", "rain")]]
  yamlSorted := by decide
  yamlNames := by decide +kernel
  ymlSorted := by decide
  ymlNames := by decide +kernel
  filed name listed := by
    obtain rfl := List.mem_singleton.1 listed
    exact ⟨_, .ofEntries [("events", .ofList [.ofEntries [("id", "rain")]])], rfl,
      readText_twoForms (by decide +kernel), .listed (Value.lists_list none _)⟩

theorem folder_agrees_with_file_twoForms :
    ∃ one other, twoForms.script (some { steps := ["parts"] }) = .ok one ∧
      twoForms.script (some { steps := ["whole.yaml"] }) = .ok other ∧
      one.entry = other.entry ∧ one.findSite? = other.findSite? ∧ one.findEvent? = other.findEvent? ∧
      one.sites.map (·.id) = ["ford", "mill"] ∧ other.sites.map (·.id) = ["mill", "ford"] := by
  have inFolder : twoForms.tree.find? { steps := ["parts"] } = some (.folder [
      ("entry.yaml", .file "site: ford"), ("sites", twoFormsSites), ("events", twoFormsEvents)]) := rfl
  have entryRead : twoForms.readText "site: ford" = .ok (.ofEntries [("site", "ford")]) :=
    readText_twoForms (by decide +kernel)
  have inFile : twoForms.tree.find? { steps := ["whole.yaml"] } = some (.file twoFormsWhole) := rfl
  have wholeRead : twoForms.readText twoFormsWhole = .ok (.ofEntries [
      ("entry", .ofEntries [("site", "ford")]),
      ("sites", .ofList [.ofEntries [("id", "mill")], .ofEntries [("id", "ford")]]),
      ("events", .ofList [.ofEntries [("id", "rain")]])]) :=
    readText_twoForms (by decide +kernel)
  have one := @script_of_folder twoForms (some { steps := ["parts"] }) _ inFolder _ _ _ rfl entryRead
    (.mapping none _) twoFormsSiteFiling twoFormsEventFiling
  have other := @script_of_file twoForms (some { steps := ["whole.yaml"] }) _ inFile _ _ wholeRead
  obtain ⟨-, alike, -⟩ := @folder_agrees_with_file twoForms
    (some { steps := ["parts"] }) (some { steps := ["whole.yaml"] }) _ inFolder
    _ _ _ rfl entryRead (.mapping none _) twoFormsSiteFiling twoFormsEventFiling
    _ inFile _ _ wholeRead rfl _ _ (Value.lists_list none _) (.swap _ _ _) (Value.lists_list none _)
    (.refl _)
  obtain ⟨entry, sites, events⟩ := alike _ _ (one.trans rfl) (other.trans rfl)
  exact ⟨_, _, one.trans rfl, other.trans rfl, entry, sites, events, rfl, rfl⟩

end Library

end Gamebook
