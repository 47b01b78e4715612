import Gamebook.Script.Action

/-! Reading actions from script data.

An action is a name, a list of effects, or a mapping with such a list under `effects`; an effect is
a mapping of one kind to its argument. The first malformed part, in the order written, decides the
fault. -/

set_option autoImplicit false

namespace Gamebook

/-- The argument of a `text` effect: a text, or a mapping with a text and its types. -/
def Effect.readText : Value → Except Fault Effect
  | .text s => .ok (.text s [LineType.normal.name])
  | .mapping entries =>
    let text := Entries.getD entries "text" ""
    match Entries.get? entries "types" with
    | none => .ok (.text text [LineType.normal.name])
    | some (.text s) => .ok (.text text [s])
    | some (.list items) => do return .text text (← items.mapM Value.toText)
    | some v => .error (.malformed (.textTypes v))
  | v => .error (.malformed (.textEffect v))

def Effect.readMutate (v : Value) : Except Fault Effect :=
  match v with
  | .mapping entries =>
    match Entries.get? entries "key", Entries.get? entries "delta" with
    | some key, some delta => do
      let delta ← delta.toInt
      return .mutate key delta (Entries.getD entries "reason" .null)
    | _, _ => .error (.malformed (.mutateEffect v))
  | _ => .error (.malformed (.mutateEffect v))

def Effect.readGoTo (v : Value) : Except Fault Effect :=
  match v with
  | .text s => .ok (.goTo s false)
  | .mapping entries =>
    match Entries.get? entries "site" with
    | some site => .ok (.goTo site (Entries.getD entries "instantly" (.bool false)).isTruthy)
    | none => .error (.malformed (.goToEffect v))
  | _ => .error (.malformed (.goToEffect v))

def Effect.readId (kind : String) : Value → Except Fault String
  | .text s => .ok s
  | v => .error (.malformed (.namedEffect kind v))

def Effect.readRefresh (v : Value) : Except Fault Effect := do
  let entries ← (v.orElse (.ofEntries [])).entries
  return .refresh (Entries.getD entries "state" (.bool true)).isTruthy
    (Entries.getD entries "options" (.bool true)).isTruthy

mutual

def Action.read : Value → Except Fault Action
  | .text name => .ok (.named name)
  | .list items => do return .scripted (← Effect.readAll items)
  | .mapping entries => Action.readEntries entries
  | v => .error (.malformed (.action v))
  termination_by structural v => v

def Action.readEntries : Entries → Except Fault Action
  | [] => .ok (.scripted [])
  | (k, v) :: rest => if k.isText "effects" then Action.readEffects v else Action.readEntries rest
  termination_by structural es => es

def Action.readEffects : Value → Except Fault Action
  | .list items => do return .scripted (← Effect.readAll items)
  | v => .error (.malformed (.effectList v))
  termination_by structural v => v

def Effect.readAll : List Value → Except Fault (List Effect)
  | [] => .ok []
  | v :: rest => do
    let effect ← Effect.read v
    let effects ← Effect.readAll rest
    return effect :: effects
  termination_by structural vs => vs

def Effect.read : Value → Except Fault Effect
  | .mapping [(kind, v)] =>
    match kind with
    | .text "text" => Effect.readText v
    | .text "mutate" => Effect.readMutate v
    | .text "go_to" => Effect.readGoTo v
    | .text "trigger" => (Effect.readId "trigger" v).map .trigger
    | .text "call" => (Effect.readId "call" v).map .call
    | .text "options" => do return .offer (← Choice.readOffer v)
    | .text "show_state" => Effect.readRefresh v
    | kind => .error (.malformed (.effectKind kind))
  | v => .error (.malformed (.effect v))
  termination_by structural v => v

-- The argument of an `options` effect: whatever is not given offers nothing. A text or mapping runs
-- through its symbols or keys, and none of these is an option.
def Choice.readOffer : Value → Except Fault (List Choice)
  | .list items => Choice.readAll items
  | .text s =>
    match Text.symbols s with
    | [] => .ok []
    | symbol :: _ => .error (.malformed (.option (Text.ofSymbols [symbol])))
  | .mapping [] => .ok []
  | .mapping ((key, _) :: _) => .error (.malformed (.option key))
  | v => if v.isTruthy then .error .notIterable else .ok []
  termination_by structural v => v

def Choice.readAll : List Value → Except Fault (List Choice)
  | [] => .ok []
  | v :: rest => do
    let choice ← Choice.read v
    let choices ← Choice.readAll rest
    return choice :: choices
  termination_by structural vs => vs

def Choice.read : Value → Except Fault Choice
  | v@(.mapping entries) =>
    match Choice.readAction? entries with
    | some action => do
      let text ← (Entries.getD entries "text" "").toText
      return ⟨text, ← action⟩
    | none => .error (.malformed (.option v))
  | v => .error (.malformed (.option v))
  termination_by structural v => v

def Choice.readAction? : Entries → Option (Except Fault Action)
  | [] => none
  | (k, v) :: rest => if k.isText "action" then some (Action.read v) else Choice.readAction? rest
  termination_by structural es => es

end

theorem Action.readEntries_eq (entries : Entries) :
    Action.readEntries entries =
      match Entries.get? entries "effects" with
      | some v => Action.readEffects v
      | none => .ok (.scripted []) := by
  induction entries with
  | nil => rfl
  | cons entry rest ih =>
    obtain ⟨k, v⟩ := entry
    simp only [Action.readEntries, Entries.get?]
    split <;> simp_all

theorem Choice.readAction?_eq (entries : Entries) :
    Choice.readAction? entries = (Entries.get? entries "action").map Action.read := by
  induction entries with
  | nil => rfl
  | cons entry rest ih =>
    obtain ⟨k, v⟩ := entry
    simp only [Choice.readAction?, Entries.get?]
    split <;> simp_all

theorem Effect.readAll_eq (items : List Value) : Effect.readAll items = items.mapM Effect.read := by
  induction items with
  | nil => rfl
  | cons v rest ih => simp [Effect.readAll, ih, List.mapM_cons]

theorem Choice.readAll_eq (items : List Value) : Choice.readAll items = items.mapM Choice.read := by
  induction items with
  | nil => rfl
  | cons v rest ih => simp [Choice.readAll, ih, List.mapM_cons]

end Gamebook
