import Gamebook.Config
import Gamebook.Script.Basic
import Gamebook.Text.Word

/-! Placeholders in texts.

A placeholder is a dollar sign and one of six names, where no further word character follows. A
text is cut into pieces in one pass, and what replaces a placeholder is not looked at again. -/

set_option autoImplicit false

namespace Gamebook

inductive Slot where
  | site
  | exits
  | days
  | counter (c : Counter)
  deriving DecidableEq, Repr

namespace Slot

def all : List Slot := .site :: .exits :: .days :: Counter.all.map .counter

def name : Slot → String
  | .site => "site"
  | .exits => "ports"
  | .days => "days"
  | .counter c => c.name

def wordEnds : List Char → Bool
  | [] => true
  | c :: _ => !Text.isWord c

def at? (cs : List Char) : Option Slot :=
  all.find? fun slot =>
    slot.name.toList.isPrefixOf cs && wordEnds (cs.drop slot.name.length)

end Slot

inductive Piece where
  | char (c : Char)
  | slot (s : Slot)
  deriving DecidableEq, Repr

namespace Template

/-- The pieces of a text, after skipping the characters that a placeholder has taken. -/
def pieces : Nat → List Char → List Piece
  | _, [] => []
  | skip + 1, _ :: rest => pieces skip rest
  | 0, c :: rest =>
    if c = '$' then
      match Slot.at? rest with
      | some slot => .slot slot :: pieces slot.name.length rest
      | none => .char c :: pieces 0 rest
    else .char c :: pieces 0 rest

def render (value : Slot → Except Fault String) : List Piece → Except Fault (List Char)
  | [] => .ok []
  | .char c :: rest => do return c :: (← render value rest)
  | .slot slot :: rest => do
    let text ← value slot
    return text.toList ++ (← render value rest)

def exitLabel (script : Script) (config : TextConfig) (exit : Exit) : Except Fault Value := do
  if exit.name.isTruthy then return exit.name
  if !exit.target.isTruthy then return .text config.goToPrefix
  match ← script.site? exit.target with
  | some site => return .text (config.goToPrefix ++ site.name)
  | none =>
    match exit.target with
    | .text id => return .text (config.goToPrefix ++ id)
    | _ => throw .notText

def exitLabels (script : Script) (config : TextConfig) (site : Site) :
    Except Fault (List Value) :=
  site.exits.mapM (exitLabel script config)

def asText : Value → Except Fault String
  | .text s => .ok s
  | _ => .error .notText

-- The value of a placeholder. A site that the script lacks goes by its id and has no exits.
def slotText (script : Script) (config : TextConfig) (state : State) : Slot → Except Fault String
  | .site =>
    match script.findSite? state.site with
    | some site => .ok site.name
    | none => .ok state.site
  | .exits =>
    match script.findSite? state.site with
    | some site => do
      let labels ← exitLabels script config site
      return config.exitDelimiter.intercalate (← labels.mapM asText)
    | none => .ok ""
  | .days => (Value.int state.days).toText
  | .counter c => (Value.int (state.status.get c)).toText

-- Fills the placeholders of a text. Data of another shape stays as it is, unless it holds a dollar
-- sign; what cannot be searched for one is refused.
def fill (script : Script) (config : TextConfig) (state : State) (raw : Value) :
    Except Fault Value :=
  match raw with
  | .text s => do
    return .text (String.ofList
      (← render (slotText script config state) (pieces 0 s.toList)))
  | .list items => if items.any (·.isText "$") then .error .notText else .ok raw
  | .mapping entries => if entries.any (·.1.isText "$") then .error .notText else .ok raw
  | _ => .error .notText

end Template

end Gamebook
