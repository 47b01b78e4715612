import Gamebook.Value.Display

/-! What can go wrong, as causes.

A script fault points at the authored script and carries a message for its author. The remaining
faults say that a value has not the shape that an operation needs, or that a number is out of
bounds. -/

set_option autoImplicit false

namespace Gamebook

inductive Malformed where
  | exitWithoutTarget
  | exitDistance (distance : Int)
  | event (data : Value)
  | eventWeight (id weight : Value)
  | site (data : Value)
  | unresolvedEvent (place name : String)
  | duplicate (kind id : String)
  | noEntry
  | entryWithoutSite
  | effect (data : Value)
  | effectKind (kind : Value)
  | textEffect (data : Value)
  | textTypes (data : Value)
  | mutateEffect (data : Value)
  | goToEffect (data : Value)
  | namedEffect (kind : String) (data : Value)
  | effectList (data : Value)
  | action (data : Value)
  | option (data : Value)
  | unreadable (file : String)
  | topLevel (file : String)
  | notFound (path : String)

def Malformed.message : Malformed → String
  | .exitWithoutTarget => "port needs a target or an action"
  | .exitDistance distance => "port distance must be positive, got " ++ toString distance
  | .event data => "event needs an id: " ++ data.literal
  | .eventWeight id weight =>
    "event " ++ id.literal ++ " has a non-numeric weight: " ++ weight.literal
  | .site data => "site needs an id: " ++ data.literal
  | .unresolvedEvent place name =>
    "site " ++ Text.quote place ++ " references unknown event " ++ Text.quote name
  | .duplicate kind id => "duplicate " ++ kind ++ " id: " ++ Text.quote id
  | .noEntry => "script has no entry"
  | .entryWithoutSite => "entry needs a site"
  | .effect data => "effect must be a single-key mapping, got " ++ data.literal
  | .effectKind kind => "unknown effect kind: " ++ kind.literal
  | .textEffect data => "text effect takes a string or mapping, got " ++ data.literal
  | .textTypes data => "text types must be a name or a list, got " ++ data.literal
  | .mutateEffect data => "mutate effect needs key and delta: " ++ data.literal
  | .goToEffect data => "go_to effect needs a site: " ++ data.literal
  | .namedEffect kind data => kind ++ " effect takes an id, got " ++ data.literal
  | .effectList data => "scripted action must list its effects, got " ++ data.literal
  | .action data => "cannot interpret " ++ data.literal ++ " as an action"
  | .option data => "option needs text and action: " ++ data.literal
  | .unreadable file => file ++ ": <yaml error>"
  | .topLevel file => file ++ ": expected a mapping at top level"
  | .notFound path => "script not found: " ++ path

def Malformed.quoted : Malformed → List Value
  | .exitDistance distance => [.int distance]
  | .eventWeight id weight => [id, weight]
  | .event data | .site data | .effect data | .effectKind data | .textEffect data
  | .textTypes data | .mutateEffect data | .goToEffect data | .namedEffect _ data
  | .effectList data | .action data | .option data => [data]
  | _ => []

inductive Fault where
  | malformed (cause : Malformed)
  | invalidKey (key : Value)
  | unknownSite (id : Value)
  | unknownEvent (id : Value)
  | unknownAction (name : String)
  | missingEntry (site : String)
  | negativeStart (day : Int)
  | unknownPolicy (name : String)
  | backwardDays (days : Int)
  | fractionalDelta (delta : Value)
  | noSuchOption (index : Int) (count : Nat)
  | unknownLineType (name : String)
  | notMapping
  | notIterable
  | notKey
  | notText
  /-- Null, a list or a mapping stands where a number is needed. -/
  | notNumber
  /-- What is no number, or no whole one, stands where one is needed; or a whole number has too many
  digits to be read or written. -/
  | badNumeral
  | unboundedWeights
  | overflow
  | notFile

namespace Fault

/-- The message for the author; faults of shape carry none. -/
def message? : Fault → Option String
  | .malformed cause => some cause.message
  | .invalidKey key => some ("unknown status key: " ++ key.literal)
  | .unknownSite id => some ("unknown site: " ++ id.literal)
  | .unknownEvent id => some ("unknown event: " ++ id.literal)
  | .unknownAction name => some ("unknown action: " ++ Text.quote name)
  | .missingEntry site => some ("entry site " ++ Text.quote site ++ " is not defined")
  | .negativeStart day => some ("starting_day must be non-negative, got " ++ toString day)
  | .unknownPolicy name =>
    some ("unknown travel policy " ++ Text.quote name
      ++ ", expected one of ['distance', 'flat']")
  | .backwardDays days => some ("days only move forward, got " ++ toString days)
  | .fractionalDelta delta => some ("status deltas must be integers, got " ++ delta.literal)
  | .noSuchOption index count =>
    some ("option " ++ toString index ++ " out of range (0.."
      ++ toString ((count : Int) - 1) ++ ")")
  | _ => none

def quoted : Fault → List Value
  | .malformed cause => cause.quoted
  | .invalidKey key => [key]
  | .unknownSite id | .unknownEvent id => [id]
  | .negativeStart n | .backwardDays n | .noSuchOption n _ => [.int n]
  | .fractionalDelta delta => [delta]
  | _ => []

/-- The fault as it is reported. One whose message cannot be written is told as a number that
cannot. -/
def reported (f : Fault) : Fault :=
  if f.quoted.all Value.isWritable then f else .badNumeral

/-- The name under which a script fault is reported to clients; other faults have none. -/
def scriptName? : Fault → Option String
  | .malformed _ => some "ScriptFormatError"
  | .invalidKey _ => some "InvalidKeyError"
  | .unknownSite _ => some "UnknownSiteError"
  | .unknownEvent _ => some "UnknownEventError"
  | .unknownAction _ => some "UnknownActionError"
  | .missingEntry _ => some "MissingEntrySiteError"
  | _ => none

end Fault

end Gamebook
