import Gamebook.Status

/-! The settings of a game: initial counters, travel costs, texts and the seed of its draws. -/

set_option autoImplicit false

namespace Gamebook

structure TravelConfig where
  policy : String := "flat"
  /-- Days per leg, or per unit of distance. -/
  days : Int := 1
  /-- Money per leg under the flat policy. -/
  money : Int := 10
  /-- Money per day under the distance policy. -/
  moneyPerDay : Int := 10
  /-- Whether arriving where one already stands fires no event. -/
  suppressSelfArrival : Bool := false
  deriving DecidableEq, Repr

def TravelConfig.read (v : Value) : Except Fault TravelConfig := do
  let entries ← v.entries
  let policy ← (entries.getD "policy" "flat").toText
  let days ← (entries.getD "days" (.int 1)).toInt
  let money ← (entries.getD "money" (.int 10)).toInt
  let moneyPerDay ← (entries.getD "money_per_day" (.int 10)).toInt
  return {
    policy, days, money, moneyPerDay
    suppressSelfArrival := (entries.getD "suppress_self_arrival" (.bool false)).isTruthy }

structure Labels where
  hp : String := "HP"
  money : String := "Money"
  honor : String := "Honor"
  deriving DecidableEq, Repr

namespace Labels

def get (labels : Labels) : Counter → String
  | .hp => labels.hp
  | .money => labels.money
  | .honor => labels.honor

def set (labels : Labels) (c : Counter) (label : String) : Labels :=
  match c with
  | .hp => { labels with hp := label }
  | .money => { labels with money := label }
  | .honor => { labels with honor := label }

end Labels

structure TextConfig where
  exitDelimiter : String := ", "
  goToPrefix : String := "go to "
  travelReason : String := "travel"
  labels : Labels := {}
  deriving DecidableEq, Repr

def TextConfig.read (v : Value) : Except Fault TextConfig := do
  let entries ← v.entries
  let labelEntries ← ((entries.getD "status_labels" .null).orElse (.ofEntries [])).entries
  let labels ← labelEntries.foldlM (fun labels (key, label) => do
    let label ← label.toText
    return Labels.set labels (← Counter.read key) label) {}
  let exitDelimiter ← (entries.getD "ports_delimiter" ", ").toText
  let goToPrefix ← (entries.getD "go_to_prefix" "go to ").toText
  let travelReason ← (entries.getD "travel_reason" "travel").toText
  return { exitDelimiter, goToPrefix, travelReason, labels }

structure Config where
  status : Status := { hp := 100, money := 100, honor := 0 }
  startingDay : Int := 0
  travel : TravelConfig := {}
  text : TextConfig := {}
  seed : Option Int := none
  deriving DecidableEq, Repr

namespace Config

-- Reads the settings. Whatever is not given keeps its default.
def read (v : Value) : Except Fault Config := do
  let entries ← (v.orElse (.ofEntries [])).entries
  let player ← ((entries.getD "player" .null).orElse (.ofEntries [])).entries
  let statusEntries ← ((player.getD "status" .null).orElse (.ofEntries [])).entries
  let status ← statusEntries.foldlM (fun status (key, n) => do
    let n ← n.toInt
    return Status.set status (← Counter.read key) n) { hp := 100, money := 100, honor := 0 }
  let startingDay ← (player.getD "starting_day" (.int 0)).toInt
  if startingDay < 0 then throw (.negativeStart startingDay)
  let random ← ((entries.getD "random" .null).orElse (.ofEntries [])).entries
  let travel ← TravelConfig.read ((entries.getD "travel" .null).orElse (.ofEntries []))
  let text ← TextConfig.read ((entries.getD "text" .null).orElse (.ofEntries []))
  let seed ← match random.getD "seed" .null with
    | .null => pure none
    | seed => some <$> seed.toInt
  return { status, startingDay, travel, text, seed }

def seedVariable : String := "WAYFARER_SEED"

/-- The settings under the environment: a seed given there, and not empty, wins. -/
def withEnvironment (config : Config) (environment : String → Option String) :
    Except Fault Config :=
  match environment seedVariable with
  | none | some "" => .ok config
  | some s => do return { config with seed := some (← (Value.text s).toInt) }

end Config

end Gamebook
