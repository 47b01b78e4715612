import Gamebook.Library.Tree

/-! The script that comes with the program: a journey on foot, told in YAML files. -/

set_option autoImplicit false

namespace Gamebook.Bundled

def lines (ls : List String) : String :=
  String.join (ls.map (· ++ "\n"))

def config : String := lines [
  "player:",
  "  status:",
  "    hp: 100",
  "    money: 60",
  "    honor: 0",
  "  starting_day: 0",
  "",
  "travel:",
  "  policy: distance",
  "  days: 1",
  "  money: 10",
  "  money_per_day: 5",
  "  suppress_self_arrival: false",
  "",
  "text:",
  "  ports_delimiter: \", \"",
  "  go_to_prefix: \"go to \"",
  "  travel_reason: \"travel\"",
  "  status_labels:",
  "    hp: HP",
  "    money: Money",
  "    honor: Honor",
  "",
  "random:",
  "  seed: null"]

def entry : String := lines [
  "site: village",
  "story: >",
  "  The harvest failed and the granary is empty. You leave $site with a",
  "  thin purse, hoping to reach the market town before winter."]

def forest : String := lines [
  "id: forest",
  "name: Greywood",
  "ports:",
  "  - target: village",
  "  - target: town",
  "    distance: 2",
  "events:",
  "  - wolves",
  "  - id: forest_shrine",
  "    weight: 1",
  "    text: \"A mossy shrine stands by the path.\"",
  "    options:",
  "      - text: Leave an offering",
  "        action:",
  "          effects:",
  "            - mutate: \x7bkey: money, delta: -2, reason: offering\x7d",
  "            - mutate: \x7bkey: honor, delta: 1, reason: piety\x7d",
  "            - show_state: \x7bstate: true, options: true\x7d",
  "      - text: Walk on",
  "        action: stay",
  "  - id: forest_calm",
  "    weight: 2",
  "    text: \"Birdsong follows you under the trees.\""]

def riverAndTown : String := lines [
  "sites:",
  "  - id: river",
  "    name: Fordham Crossing",
  "    ports:",
  "      - target: village",
  "        distance: 2",
  "      - target: town",
  "      - name: Rest at the ferry inn",
  "        action: rest",
  "    events:",
  "      - id: ferryman",
  "        text: \"The ferryman asks $money coins' worth of questions about where you are going.\"",
  "        options:",
  "          - text: Pay the toll",
  "            action:",
  "              - mutate: \x7bkey: money, delta: -3, reason: toll\x7d",
  "              - show_state: \x7b\x7d",
  "          - text: Argue your way across",
  "            action:",
  "              - mutate: \x7bkey: honor, delta: -1, reason: quarrel\x7d",
  "              - show_state: \x7b\x7d",
  "  - id: town",
  "    name: Kingsmarket",
  "    ports:",
  "      - target: river",
  "      - target: forest",
  "        distance: 2",
  "      - name: Sleep at the Gilded Goose",
  "        action: rest",
  "    events:",
  "      - id: market_day",
  "        weight: 1",
  "        action:",
  "          effects:",
  "            - text: \x7btext: \"It is market day in $site. You sell firewood.\", types: [good]\x7d",
  "            - mutate: \x7bkey: money, delta: 8, reason: trade\x7d",
  "            - call: check_fate"]

def village : String := lines [
  "id: village",
  "name: Millbrook",
  "ports:",
  "  - target: forest",
  "  - target: river",
  "    name: Take the river road",
  "    distance: 2",
  "events:",
  "  - id: village_farewell",
  "    weight: 3",
  "    text: \"Neighbours wave from their doorsteps as you pass through $site.\"",
  "  - id: village_quiet",
  "    weight: 1",
  "    text: \"$site is quiet. From here you can $ports.\""]

def encounters : String := lines [
  "events:",
  "  - id: wolves",
  "    weight: 1",
  "    text: \"Wolves circle you among the trees of $site.\"",
  "    options:",
  "      - text: Fight them off",
  "        action:",
  "          effects:",
  "            - mutate: \x7bkey: hp, delta: -15, reason: wolf bites\x7d",
  "            - mutate: \x7bkey: honor, delta: 2, reason: courage\x7d",
  "            - call: check_fate",
  "      - text: Throw them your food and run",
  "        action:",
  "          effects:",
  "            - mutate: \x7bkey: money, delta: -5, reason: lost supplies\x7d",
  "            - trigger: escaped",
  "",
  "  - id: escaped",
  "    text: \"You reach the edge of the forest, shaken but alive.\"",
  "    options:",
  "      - text: Catch your breath",
  "        action: check_fate"]

def tree : Tree :=
  .folder [
    ("config.yaml", .file config),
    ("entry.yaml", .file entry),
    ("sites", .folder [
      ("forest.yaml", .file forest),
      ("river_and_town.yaml", .file riverAndTown),
      ("village.yaml", .file village)]),
    ("events", .folder [("encounters.yaml", .file encounters)])]

end Gamebook.Bundled
