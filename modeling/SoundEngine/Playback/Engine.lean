import SoundEngine.Mix.Settings
import SoundEngine.Packet.Command
import SoundEngine.Playback.Effects
import SoundEngine.Playback.Music

/-!
# The engine

The engine joins the supply of sources, the mixer, the tracked effects and the slot for music.  It
is built once, over a host; page, context and buses are found then and stay.

Events wait until an operation DRAINS them.  All operations on sounds and music drain first; setting
a gain and unlocking do not.  Only tracked effects heed events: those of music, of sources that
were stopped, and of unknown sources are drained and have no effect.
-/

namespace SoundEngine

variable {H : Host}

/-- The state of an engine. -/
structure Engine where
  settings : Settings
  page : Option Url
  supply : Supply
  mixer : Mixer
  effects : Effects
  music : Music

namespace Engine

/-! ## 1. Building -/

/-- The context that the host makes, if it can. -/
def findContext : HostM H Bool := do
  if ← ask .supportsGraph then ask .createContext else pure false

/-- Builds an engine. -/
def build (settings : Settings) : HostM H Engine := do
  let page ← ask .pageAddress
  let hasContext ← findContext
  if !hasContext then log .noContext
  let mixer ← Mixer.build hasContext settings.gains
  pure ⟨settings, page, {}, mixer, [], none⟩

/-! ## 2. Events -/

/-- Applies events to the effects, one after the other. -/
def heed : Effects → List Notice → HostM H Effects
  | effects, [] => pure effects
  | effects, n :: ns => do
    if effects.endsWith n then log (.effectFinished n)
    heed (effects.apply n) ns

/-- Takes all events that wait, and tells how many there were. -/
def drain (e : Engine) : HostM H (Nat × Engine) := do
  let notices ← takeNotices
  let effects ← heed e.effects notices
  pure (notices.length, { e with effects })

/-! ## 3. Sounds and music -/

/-- Plays an effect. -/
def playEffect (e : Engine) (request : EffectRequest) : HostM H (EffectOutcome × Engine) := do
  let (_, e) ← e.drain
  let (outcome, supply, effects) ←
    e.effects.play e.supply e.mixer e.page e.settings.effectiveBase request
  pure (outcome, { e with supply, effects })

/-- Plays music. -/
def playMusic (e : Engine) (request : MusicRequest) : HostM H (MusicOutcome × Engine) := do
  let (_, e) ← e.drain
  let (outcome, supply, music) ←
    e.music.play e.supply e.mixer e.page e.settings.effectiveBase request
  pure (outcome, { e with supply, music })

/-- Stops the music. -/
def stopMusic (e : Engine) : HostM H Engine := do
  let (_, e) ← e.drain
  let music ← e.music.stop
  pure { e with music }

/-- Stops the music, then all effects. -/
def stopAll (e : Engine) (order : VisitOrder) : HostM H Engine := do
  let (_, e) ← e.drain
  let music ← e.music.stop
  let effects ← e.effects.stopAll order
  pure { e with music, effects }

/-- Does what a command says. -/
def obey (e : Engine) (order : VisitOrder) : Command → HostM H Engine
  | .playEffect request => do pure (← e.playEffect request).2
  | .playMusic request => do pure (← e.playMusic request).2
  | .stopMusic => e.stopMusic
  | .stopAll => e.stopAll order

/-! ## 4. Gains and unlocking -/

/-- Sets the gain of a bus. -/
def setGain (e : Engine) (kind : BusKind) (gain : Single) : HostM H Engine := do
  let mixer ← e.mixer.setGain kind gain
  pure { e with mixer }

/-- Waits for a resumption, asking at most `patience` times how it stands. -/
def awaitResume : Nat → HostM H (Option (Except ContextFailure Unit))
  | 0 => pure none
  | patience + 1 => do
    match ← ask .awaitResume with
    | some result => pure (some result)
    | none => awaitResume patience

/-- The context runs. -/
def isRunning : HostM H Bool := do
  pure (decide ((← ask .contextState) = .running))

/-- Lets the context run, and tells whether it does.  The host may take its time: `none` means that
it was asked `patience` times and had not decided, and nothing more is done then. -/
def unlock (e : Engine) (patience : Nat) : HostM H (Option Bool) := do
  if patience = 0 then pure none
  else if !e.mixer.hasContext then pure (some false)
  else if ← isRunning then
    some <$> isRunning
  else
    ask .resume
    match ← awaitResume patience with
    | none => pure none
    | some (.error failure) =>
      log (.unlockFailed failure)
      some <$> isRunning
    | some (.ok ()) => some <$> isRunning

/-- The context runs now. -/
def isUnlocked (e : Engine) : HostM H Bool := do
  if e.mixer.hasContext then isRunning else pure false

end Engine

end SoundEngine
