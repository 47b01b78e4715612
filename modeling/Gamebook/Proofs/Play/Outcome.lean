import Gamebook.Game.Session

/-! What the pieces of a run answer, and relations that hold across runs.

A relation `R w stop? v` links the world before a run, why the run stopped early, if it did, and the
world it leaves. One that composes is shown piece by piece: the rules below follow the `do` blocks
of `Play`.
-/

set_option autoImplicit false

namespace Gamebook

namespace Play

variable {α β : Type}

@[simp] theorem outcome_game (w : World) : outcome game w = (.ok w.game, w) := rfl

@[simp] theorem outcome_update (f : Game → Game) (w : World) :
    outcome (update f) w = (.ok (), { w with game := f w.game }) := rfl

theorem outcome_bind (play : Play α) (next : α → Play β) (w : World) :
    outcome (play >>= next) w =
      match outcome play w with
      | (.ok a, v) => outcome (next a) v
      | (.error stop, v) => (.error stop, v) := by
  simp only [outcome, ExceptT.run_bind, StateT.run_bind]
  rcases StateT.run (ExceptT.run play) w with ⟨answer, v⟩
  cases answer with
  | error stop => rfl
  | ok a => rfl

@[simp] theorem outcome_game_bind (next : Game → Play β) (w : World) :
    outcome (game >>= next) w = outcome (next w.game) w := by
  rw [outcome_bind, outcome_game]

theorem outcome_get_bind (next : World → Play β) (w : World) :
    outcome ((get : Play World) >>= next) w = outcome (next w) w := by
  rw [outcome_bind]
  rfl

@[simp] theorem outcome_update_bind (f : Game → Game) (next : Unit → Play β) (w : World) :
    outcome (update f >>= next) w = outcome (next ()) { w with game := f w.game } := by
  rw [outcome_bind, outcome_update]

@[simp] theorem liftFault_ok (a : α) : liftFault (.ok a) = pure a := rfl

theorem outcome_attempt (f : Game → Except Fault Game) (w : World) :
    outcome (attempt f) w =
      match f w.game with
      | .ok g => (.ok (), { w with game := g })
      | .error fault => (.error (.fault fault), w) := by
  rw [attempt, outcome_game_bind]
  cases f w.game with
  | error fault => rfl
  | ok g => rfl

theorem outcome_tryCatch (play : Play α) (handler : Stop → Play α) (w : World) :
    outcome (tryCatch play handler) w =
      match outcome play w with
      | (.ok a, v) => (.ok a, v)
      | (.error stop, v) => outcome (handler stop) v := by
  change StateT.run (ExceptT.run (ExceptT.tryCatch play handler)) w = _
  unfold outcome ExceptT.tryCatch
  rw [ExceptT.run_mk, StateT.run_bind]
  change (StateT.run (ExceptT.run play) w >>= _) = _
  rcases StateT.run (ExceptT.run play) w with ⟨answer, v⟩
  cases answer with
  | error stop => rfl
  | ok a => rfl

/-- A fault is caught with what was done before it. -/
theorem outcome_catching (play : Play α) (w : World) :
    outcome (catching play) w =
      match outcome play w with
      | (.ok a, v) => (.ok (.ok a), v)
      | (.error (.fault fault), v) =>
        (.ok (.error fault.reported), { v with game := v.game.record (.caught fault.reported) })
      | (.error .tooDeep, v) => (.error .tooDeep, v) := by
  rw [catching, outcome_tryCatch, outcome_bind]
  rcases outcome play w with ⟨answer, v⟩
  cases answer with
  | ok a => rfl
  | error stop => cases stop <;> rfl

theorem outcome_bind_eq_ok {play : Play α} {next : α → Play β} {w v : World} {b : β}
    (done : outcome (play >>= next) w = (.ok b, v)) :
    ∃ a u, outcome play w = (.ok a, u) ∧ outcome (next a) u = (.ok b, v) := by
  rw [outcome_bind] at done
  rcases run : outcome play w with ⟨answer, u⟩
  rw [run] at done
  cases answer with
  | error stop => cases done
  | ok a => exact ⟨a, u, rfl, done⟩

theorem liftFault_eq_ok {x : Except Fault α} {w v : World} {a : α}
    (done : outcome (liftFault x) w = (.ok a, v)) : x = .ok a ∧ w = v := by
  cases x with
  | error fault => cases done
  | ok b =>
    cases done
    exact ⟨rfl, rfl⟩

/-- A play that leaves the world as it is, and answers a value or a fault. -/
def Reads (play : Play α) (w : World) (x : Except Fault α) : Prop :=
  outcome play w = (x.mapError .fault, w)

theorem reads_pure (a : α) (w : World) : Reads (pure a) w (.ok a) := rfl

theorem reads_liftFault (x : Except Fault α) (w : World) : Reads (liftFault x) w x := by
  cases x with
  | error fault => rfl
  | ok a => rfl

theorem Reads.bind {play : Play α} {next : α → Play β} {w : World} {x : Except Fault α}
    {f : α → Except Fault β} (first : Reads play w x) (rest : ∀ a, Reads (next a) w (f a)) :
    Reads (play >>= next) w (x >>= f) := by
  unfold Reads at first ⊢
  rw [outcome_bind, first]
  cases x with
  | error fault => rfl
  | ok a => exact rest a

theorem Reads.mapM {play : α → Play β} {w : World} {f : α → Except Fault β}
    (each : ∀ a, Reads (play a) w (f a)) (items : List α) :
    Reads (items.mapM play) w (items.mapM f) := by
  induction items with
  | nil => exact reads_pure [] w
  | cons item rest ih =>
    rw [List.mapM_cons, List.mapM_cons]
    apply (each item).bind
    intro b
    apply ih.bind
    intro bs
    exact reads_pure (b :: bs) w

theorem reads_fill (s : Setting) (raw : Value) (w : World) :
    Reads (fill s raw) w (Template.fill s.script s.config.text w.game.state raw) := by
  unfold Reads fill
  rw [outcome_game_bind]
  exact reads_liftFault _ w

theorem Reads.outcome_bind {play : Play α} {next : α → Play β} {w : World} {x : Except Fault α} :
    Reads play w x →
    outcome (play >>= next) w =
      match x with
      | .ok a => outcome (next a) w
      | .error fault => (.error (.fault fault), w) := by
  intro first
  rw [Play.outcome_bind, first]
  cases x with
  | error fault => rfl
  | ok a => rfl

theorem findSite?_of_outcome {s : Setting} {id : Value} {site : Site} {w v : World}
    (looked : outcome (liftFault (s.script.site id)) w = (.ok site, v)) :
    s.script.findSite? site.id = some site :=
  (Script.findSite?_of_site (liftFault_eq_ok looked).1).2

theorem outcome_known (s : Setting) (name : String) (w : World) :
    outcome (known s name) w =
      ((if s.knowsRegistry then w.registry.get? name else none).elim
        (.error (.fault (.unknownAction name))) .ok, w) := by
  unfold known
  rw [outcome_get_bind]
  dsimp only
  cases if s.knowsRegistry then w.registry.get? name else none with
  | none => rfl
  | some routine => rfl

theorem outcome_draw (site : Site) (w : World) :
    outcome (draw site) w =
      let game := w.game.record (.arrived site.id)
      match Event.select site.events w.game.dice with
      | .ok (event?, dice) => (.ok event?, { w with game := { game with dice } })
      | .error fault => (.error (.fault fault), { w with game := game }) := by
  unfold draw
  rw [outcome_update_bind, outcome_game_bind, (reads_liftFault _ _).outcome_bind]
  unfold Game.select
  have same : (w.game.record (.arrived site.id)).dice = w.game.dice := rfl
  dsimp only
  rw [same]
  cases Event.select site.events w.game.dice with
  | error fault => rfl
  | ok answer => rfl

theorem outcome_choose {perform : Action → Play Unit} {w : World} {index : Nat} {choice : Choice}
    (offered : w.game.panel[index]? = some choice) :
    outcome (choose perform index) w = outcome (perform choice.action) w := by
  have found : (if 0 ≤ (index : Int) then w.game.panel[(index : Int).toNat]? else none) =
      some choice := by
    rw [if_pos (Int.natCast_nonneg index), Int.toNat_natCast, offered]
  unfold choose
  rw [outcome_game_bind]
  dsimp only
  rw [found]

section

variable {s : Setting} {perform : Action → Play Unit} {w v : World}

theorem reply_eq_ok {play : Play α} {b c : β} (done : outcome (play >>= fun _ => pure b) w = (.ok c, v)) :
    ∃ a, outcome play w = (.ok a, v) := by
  obtain ⟨a, u, ran, ended⟩ := outcome_bind_eq_ok done
  cases ended
  exact ⟨a, ran⟩

theorem narrate_eq_ok {raw : Value} {types : List String}
    (done : outcome (narrate s raw types) w = (.ok (), v)) :
    ∃ text, Template.fill s.script s.config.text w.game.state raw = .ok text ∧
      v = { w with game := w.game.say text types } := by
  rw [narrate, (reads_fill s raw w).outcome_bind] at done
  cases filled : Template.fill s.script s.config.text w.game.state raw with
  | error fault =>
    rw [filled] at done
    cases done
  | ok text =>
    rw [filled] at done
    cases done
    exact ⟨text, rfl, rfl⟩

theorem choose_eq_ok {index : Int} (done : outcome (choose perform index) w = (.ok (), v)) :
    ∃ choice, w.game.panel[index.toNat]? = some choice ∧
      outcome (perform choice.action) w = (.ok (), v) := by
  rw [choose, outcome_game_bind] at done
  dsimp only at done
  split at done
  · rename_i choice there
    split at there
    · exact ⟨choice, there, done⟩
    · cases there
  · cases done

theorem follow_act_eq_ok {command : Command} {next : Reply → Routine}
    (done : outcome (follow s perform (.act command next)) w = (.ok (), v)) :
    ∃ reply u, outcome (run s perform command) w = (.ok reply, u) ∧
      outcome (follow s perform (next reply)) u = (.ok (), v) :=
  outcome_bind_eq_ok done

end

/-- Why a run stopped early, if it did. -/
def stop? : Except Stop α → Option Stop
  | .ok _ => none
  | .error stop => some stop

/-- A run from a world keeps to a relation. -/
def Heeds (R : World → Option Stop → World → Prop) (play : Play α) (w : World) : Prop :=
  R w (stop? (outcome play w).1) (outcome play w).2

def Obeys (R : World → Option Stop → World → Prop) (play : Play α) : Prop :=
  ∀ w, Heeds R play w

theorem Obeys.of_outcome {R : World → Option Stop → World → Prop} {play : Play α} {w v : World}
    {answer : Except Stop α} (kept : Obeys R play) (run : outcome play w = (answer, v)) :
    R w (stop? answer) v := by
  have here := kept w
  unfold Heeds at here
  rw [run] at here
  exact here

/-- A relation that links what one run does after another, and what is done after a fault is caught. -/
structure Composes (R : World → Option Stop → World → Prop) : Prop where
  still (w : World) : R w none w
  trans {u v w : World} {stop : Option Stop} : R u none v → R v stop w → R u stop w
  caught {u v : World} {stop : Stop} (fault : Fault) :
    R u (some stop) v → R u none { v with game := v.game.record (.caught fault) }

variable {R : World → Option Stop → World → Prop}

theorem Obeys.mono {Q : World → Option Stop → World → Prop} {play : Play α} (kept : Obeys R play)
    (le : ∀ w stop v, R w stop v → Q w stop v) : Obeys Q play := by
  intro w
  apply le
  exact kept w

theorem Composes.pure (comp : Composes R) (a : α) : Obeys R (pure a : Play α) :=
  fun w => comp.still w

theorem Composes.bind (comp : Composes R) {play : Play α} {next : α → Play β} {w : World}
    (first : Heeds R play w)
    (rest : ∀ a v, outcome play w = (.ok a, v) → Heeds R (next a) v) :
    Heeds R (play >>= next) w := by
  unfold Heeds at first ⊢
  rw [outcome_bind]
  rcases run : outcome play w with ⟨answer, v⟩
  rw [run] at first
  cases answer with
  | error stop => exact first
  -- the second part is looked at only from where the first one ends well
  | ok a => exact comp.trans first (rest a v run)

theorem Composes.seq (comp : Composes R) {play : Play α} {next : α → Play β}
    (first : Obeys R play) (rest : ∀ a, Obeys R (next a)) : Obeys R (play >>= next) := by
  intro w
  apply comp.bind (first w)
  intro a v _
  exact rest a v

theorem Composes.reply (comp : Composes R) {play : Play α} (kept : Obeys R play) (b : β) :
    Obeys R (play >>= fun _ => Pure.pure b) := by
  apply comp.seq kept
  intro _
  exact comp.pure b

theorem Composes.map (comp : Composes R) {play : Play α} (first : Obeys R play) (f : α → β) :
    Obeys R (f <$> play) := by
  rw [← bind_pure_comp]
  apply comp.seq first
  intro a
  exact comp.pure (f a)

theorem Composes.onlyIf (comp : Composes R) {play : Play Unit} (kept : Obeys R play)
    (condition : Bool) : Obeys R (onlyIf condition play) := by
  cases condition with
  | false => exact comp.pure ()
  | true => exact kept

theorem Composes.catching (comp : Composes R) {play : Play α} (kept : Obeys R play) :
    Obeys R (catching play) := by
  intro w
  have here := kept w
  unfold Heeds at here ⊢
  rw [outcome_catching]
  rcases run : outcome play w with ⟨answer, v⟩
  rw [run] at here
  cases answer with
  | ok a => exact here
  | error stop =>
    cases stop with
    | fault fault => exact comp.caught fault.reported here
    | tooDeep => exact here

theorem heeds_game_bind {next : Game → Play β} {w : World} (rest : Heeds R (next w.game) w) :
    Heeds R (game >>= next) w := by
  unfold Heeds
  rw [outcome_game_bind]
  exact rest

end Play

end Gamebook
