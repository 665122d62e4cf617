import SoundEngine.Address
import SoundEngine.Packet.Request
import SoundEngine.Playback.Mixer
import SoundEngine.Playback.Supply

/-!
# Effects

An effect plays once.  From the request that made it until it is over it is TRACKED, so that it can
be stopped; its route is held as long.  It is over when its source has ended, or was paused at
its end or at its very beginning; a pause in between does not end it.

In which order tracked effects are stopped is left open.  A `VisitOrder` is one way to put them in
order.
-/

namespace SoundEngine

variable {H : Host}

/-- A tracked effect, with the nodes it holds. -/
structure ActiveEffect where
  source : SourceId
  route : Option Route
deriving DecidableEq

/-- The tracked effects, the oldest first. -/
abbrev Effects := List ActiveEffect

/-- An order in which effects are visited. -/
structure VisitOrder where
  arrange : Effects → Effects
  perm : ∀ effects, (arrange effects).Perm effects

/-- The oldest effect first. -/
def VisitOrder.oldestFirst : VisitOrder := ⟨id, fun _ => .refl _⟩

namespace Effects

/-- The effect of this source is tracked. -/
def tracks (effects : Effects) (source : SourceId) : Bool :=
  effects.any fun e => e.source == source

/-- Tracks one more effect.  If its source is tracked already, only its route is renewed. -/
def insert (effects : Effects) (effect : ActiveEffect) : Effects :=
  if effects.tracks effect.source then
    effects.map fun e =>
      if e.source = effect.source then { e with route := effect.route.or e.route } else e
  else effects ++ [effect]

theorem tracks_iff {effects : Effects} {source : SourceId} :
    effects.tracks source = true ↔ source ∈ effects.map ActiveEffect.source := by
  simp [tracks]

/-- The sources of the tracked effects are those of before, and at the end the new one unless it was
among them. -/
theorem sources_insert (effects : Effects) (effect : ActiveEffect) :
    (effects.insert effect).map ActiveEffect.source =
      if effects.tracks effect.source then effects.map ActiveEffect.source
      else effects.map ActiveEffect.source ++ [effect.source] := by
  unfold insert
  split
  · rw [List.map_map]
    refine List.map_congr_left fun e _ => ?_
    simp only [Function.comp_apply]
    split <;> rfl
  · rw [List.map_append]
    rfl

theorem tracks_insert (effects : Effects) (effect : ActiveEffect) (source : SourceId) :
    (effects.insert effect).tracks source = true ↔
      source = effect.source ∨ effects.tracks source = true := by
  rw [tracks_iff, sources_insert]
  split
  case isTrue h =>
    rw [← tracks_iff]
    refine ⟨.inr, ?_⟩
    rintro (rfl | hs)
    · exact h
    · exact hs
  case isFalse h =>
    rw [List.mem_append, List.mem_singleton, ← tracks_iff]
    exact or_comm

/-- Tracks an effect no more. -/
def remove (effects : Effects) (source : SourceId) : Effects :=
  effects.filter fun e => e.source != source

/-- The event ends a tracked effect. -/
def endsWith (effects : Effects) (notice : Notice) : Bool :=
  notice.event.isFinal && effects.tracks notice.source

/-- The tracked effects after an event. -/
def apply (effects : Effects) (notice : Notice) : Effects :=
  if effects.endsWith notice then effects.remove notice.source else effects

/-- Plays an effect.  Its levels are set before it is routed, and it is routed before it is
started; it is tracked even when its start is refused. -/
def play (effects : Effects) (supply : Supply) (mixer : Mixer) (page : Option Url) (base : String)
    (request : EffectRequest) : HostM H (EffectOutcome × Supply × Effects) := do
  match Address.resolve request.name base with
  | none => pure (.skipped, supply, effects)
  | some address =>
    match ← supply.create page address with
    | (.error failure, supply) =>
      log (.effectNotCreated address failure)
      pure (.failed failure, supply, effects)
    | (.ok id, supply) =>
      ask (.setVolume id request.volumeFactor)
      ask (.setRate id request.rateFactor)
      let routing ← mixer.route page id .effects request.panFactor
      let start ← id.start
      log (.effectStarted id address routing.isAttached start)
      pure (.played id routing.isAttached start, supply, effects.insert ⟨id, routing.route?⟩)

/-- Halts effects one after the other, whatever comes of each. -/
def haltEach : Effects → HostM H Unit
  | [] => pure ()
  | e :: es => do
    e.source.halt
    haltEach es

/-- Halts all tracked effects; none is tracked any more. -/
def stopAll (effects : Effects) (order : VisitOrder) : HostM H Effects := do
  haltEach (order.arrange effects)
  pure []

end Effects

end SoundEngine
