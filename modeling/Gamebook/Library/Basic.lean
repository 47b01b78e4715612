import Gamebook.Game.Session
import Gamebook.Library.Tree
import Gamebook.Yaml.Data

/-! Where scripts and settings are kept, and how they are loaded.

A script lies in one file, or in a folder that holds its entry, its sites and its shared events
apart. Either way its parts are gathered into one value and read as a script. -/

set_option autoImplicit false

namespace Gamebook

structure Library where
  tree : Tree
  bundled : Path
  environment : String → Option String
  /-- How the text of a file is read. -/
  readText : String → Except Yaml.Refusal Value

namespace Library

def scriptVariable : String := "WAYFARER_SCRIPT_DIR"

def home (l : Library) : Path :=
  match l.environment scriptVariable with
  | none | some "" => l.bundled
  | some path => .read path

/-- The mapping that a text holds; an empty text holds an empty one. -/
def readMapping (l : Library) (p : Path) (text : String) : Except Fault Value :=
  match l.readText text with
  | .ok .null => .ok (.ofEntries [])
  | .ok v@(.mapping _) => .ok v
  | .ok _ => .error (.malformed (.topLevel p.text))
  | .error .unreadable => .error (.malformed (.unreadable p.text))
  | .error .badNumeral => .error .badNumeral
  | .error .overflow => .error .overflow

/-- The mapping in the file at a path; a folder there is none. -/
def mappingAt (l : Library) (p : Path) : Tree → Except Fault Value
  | .file text => l.readMapping p text
  | .folder _ => .error .notFile

def mapping? (l : Library) (p : Path) : Except Fault (Option Value) :=
  (l.tree.find? p).mapM (l.mappingAt p)

def documentNames (folder : Tree) : List String :=
  folder.namesEnding ".yaml" ++ folder.namesEnding ".yml"

/-- The mappings in the files of a folder, empty ones left out. -/
def documents (l : Library) (p : Path) : Except Fault (List Value) := do
  let folder := (l.tree.find? p).getD .empty
  let found ← (documentNames folder).mapM fun name => l.mapping? (p.child name)
  return (found.filterMap id).filter (·.isTruthy)

/-- The sites of a document: a list of them, or the document as a whole. -/
def documentSites (document : Value) : Except Fault (List Value) := do
  match ← document.field? "sites" with
  | some sites => (sites.orElse (.ofList [])).items
  | none => return [document]

def documentEvents (document : Value) : Except Fault (List Value) := do
  ((← document.fieldD "events" .null).orElse (.ofList [])).items

def gather (l : Library) (p : Path) : Except Fault Value := do
  let entry ← l.mapping? (p.child "entry.yaml")
  let sites ← (← l.documents (p.child "sites")).mapM documentSites
  let events ← (← l.documents (p.child "events")).mapM documentEvents
  return .ofEntries [
    (.text "entry", entry.getD .null),
    (.text "sites", .ofList sites.flatten),
    (.text "events", .ofList events.flatten)]

def scriptData (l : Library) (p : Path) : Except Fault Value :=
  match l.tree.find? p with
  | some (.file text) => l.readMapping p text
  | some (.folder _) => l.gather p
  | none => .error (.malformed (.notFound p.text))

def script (l : Library) (p : Option Path) : Except Fault Script := do
  Script.read (← l.scriptData (p.getD l.home))

def config (l : Library) (p : Option Path) : Except Fault Config := do
  let settings ← l.mapping? ((p.getD l.home).child "config.yaml")
  (← Config.read (settings.getD .null)).withEnvironment l.environment

def source (l : Library) (p : Option Path) (host : Registry Routine) : Except Fault Source := do
  return ⟨← l.script p, Routine.builtin.merge (some host), true⟩

def load (l : Library) (p : Option Path) (host : Registry Routine) :
    Except Fault (Source × Config) := do
  let p := p.getD l.home
  let source ← l.source (some p) host
  let folder := if ((l.tree.find? p).map Tree.isFolder).getD false then p else p.parent
  return (source, ← l.config (some folder))

end Library

end Gamebook
