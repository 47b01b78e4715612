import Gamebook.Game.Session

/-! Playing looks a script up.

Nothing that is done with a script depends on more of it than the sites and events that its ids name, and
its entry. Scripts that agree in these are `Alike`, and a session cannot tell one from the other.
-/

set_option autoImplicit false

namespace Gamebook

/-- Two scripts with one entry, in which every id names the same. -/
structure Script.Alike (one other : Script) : Prop where
  entry : other.entry = one.entry
  findSite? : other.findSite? = one.findSite?
  findEvent? : other.findEvent? = one.findEvent?

namespace Script.Alike

section

variable {one other : Script} (alike : one.Alike other)
include alike

theorem site? : other.site? = one.site? := by
  funext id
  unfold Script.site?
  rw [alike.findSite?]

theorem site : other.site = one.site := by
  funext id
  unfold Script.site
  rw [alike.site?]

theorem event : other.event = one.event := by
  funext id
  unfold Script.event
  rw [alike.findEvent?]

theorem entrySite : other.entrySite = one.entrySite := by
  unfold Script.entrySite
  rw [alike.entry, alike.findSite?]

theorem exitLabel : Template.exitLabel other = Template.exitLabel one := by
  funext config exit
  unfold Template.exitLabel
  rw [alike.site?]

theorem slotText : Template.slotText other = Template.slotText one := by
  funext config state slot
  unfold Template.slotText Template.exitLabels
  rw [alike.findSite?, alike.exitLabel]

theorem templateFill : Template.fill other = Template.fill one := by
  funext config state raw
  unfold Template.fill
  rw [alike.slotText]

end

variable {s : Setting} {other : Script} (alike : s.script.Alike other)
include alike

theorem fill : Play.fill { s with script := other } = Play.fill s := by
  funext raw
  unfold Play.fill
  rw [alike.templateFill]

theorem narrate : Play.narrate { s with script := other } = Play.narrate s := by
  funext raw types
  unfold Play.narrate
  rw [alike.fill]

theorem offer : Play.offer { s with script := other } = Play.offer s := by
  funext origin choices
  unfold Play.offer
  rw [alike.fill]

theorem offerExits : Play.offerExits { s with script := other } = Play.offerExits s := by
  unfold Play.offerExits Play.exitChoice
  rw [alike.site, alike.exitLabel, alike.offer]

theorem refresh : Play.refresh { s with script := other } = Play.refresh s := by
  funext state options
  unfold Play.refresh
  rw [alike.offerExits]

theorem payLeg : Play.payLeg { s with script := other } = Play.payLeg s := by
  funext departure arrival
  unfold Play.payLeg
  rw [alike.site]
  rfl

variable (perform : Action → Play Unit)

theorem trigger : Play.trigger { s with script := other } perform = Play.trigger s perform := by
  funext event
  unfold Play.trigger
  rw [alike.narrate, alike.offer]

theorem arrive : Play.arrive { s with script := other } perform = Play.arrive s perform := by
  funext site
  unfold Play.arrive Play.fire
  rw [alike.trigger]

theorem goTo : Play.goTo { s with script := other } perform = Play.goTo s perform := by
  funext id instantly
  unfold Play.goTo
  rw [alike.site, alike.payLeg, alike.arrive, alike.refresh]

theorem triggerId : Play.triggerId { s with script := other } perform = Play.triggerId s perform := by
  funext id
  unfold Play.triggerId
  rw [alike.event, alike.trigger]

theorem start : Play.start { s with script := other } perform = Play.start s perform := by
  unfold Play.start
  rw [alike.entry, alike.narrate, alike.goTo]

theorem applyEffect :
    Play.applyEffect { s with script := other } perform = Play.applyEffect s perform := by
  funext effect
  unfold Play.applyEffect
  rw [alike.narrate, alike.goTo, alike.triggerId, alike.offer, alike.refresh]
  rfl

theorem applyEffects :
    Play.applyEffects { s with script := other } perform = Play.applyEffects s perform := by
  funext effects
  induction effects with
  | nil => rfl
  | cons effect rest ih => rw [Play.applyEffects, Play.applyEffects, alike.applyEffect, ih]

theorem run : Play.run { s with script := other } perform = Play.run s perform := by
  funext command
  unfold Play.run
  rw [alike.start, alike.fill, alike.narrate, alike.offer, alike.goTo, alike.triggerId, alike.trigger,
    alike.arrive, alike.site, alike.refresh]
  rfl

theorem follow (routine : Routine) :
    Play.follow { s with script := other } perform routine = Play.follow s perform routine := by
  match routine with
  | .done => rfl
  | .act command next =>
    rw [Play.follow, Play.follow, alike.run]
    congr 1
    funext reply
    exact follow (next reply)
  | .attempt command next =>
    rw [Play.follow, Play.follow, alike.run]
    congr 1
    funext reply?
    exact follow (next reply?)
  | .look next =>
    rw [Play.follow, Play.follow]
    congr 1
    funext game
    exact follow (next game.state)

omit perform in
theorem dispatch (depth : Nat) :
    Play.dispatch { s with script := other } depth = Play.dispatch s depth := by
  induction depth with
  | zero => rfl
  | succ depth ih =>
    funext action
    cases action with
    | named name =>
      rw [Play.dispatch, Play.dispatch, ih, funext (alike.follow (Play.dispatch s depth))]
      rfl
    | scripted effects => rw [Play.dispatch, Play.dispatch, ih, alike.applyEffects]
    | direct routine => rw [Play.dispatch, Play.dispatch, ih, alike.follow]

omit perform in
/-- Whatever a command does, it does with either script. -/
theorem step : Play.step { s with script := other } = Play.step s := by
  funext command
  unfold Play.step Play.within
  rw [alike.dispatch, alike.run]

omit s alike perform in
/-- A session is set up alike over either script, or refused for the same fault. -/
theorem settingOf {one : Script} (alike : one.Alike other) (registry : Registry Routine)
    (config : Config) (cost : Option CostPolicy) :
    Setting.of (Source.of other registry) config cost =
      (Setting.of (Source.of one registry) config cost).map fun s => { s with script := other } := by
  unfold Setting.of Source.of
  rw [alike.entrySite]
  cases one.entrySite with
  | error fault => rfl
  | ok site =>
    cases cost with
    | some cost => rfl
    | none => cases CostPolicy.ofConfig config.travel <;> rfl

omit perform in
theorem newGame : Setting.newGame { s with script := other } = s.newGame := by
  funext dice
  unfold Setting.newGame
  rw [alike.entry]

end Script.Alike

end Gamebook
