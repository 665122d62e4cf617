import SoundEngine.Address
import SoundEngine.Packet.Request
import SoundEngine.Playback.Mixer
import SoundEngine.Playback.Supply

/-!
# Music

There is one slot for music.  A request for the track in the slot, by name and looping, leaves it
where it is, and only resumes it if it is paused.  Any other request stops the track in the slot
first, and then puts the new one there, even when its start is refused.  If the new track cannot
be built the slot stays empty.
-/

namespace SoundEngine

variable {H : Host}

/-- The track in the slot, with the nodes it holds. -/
structure Track where
  source : SourceId
  name : String
  looping : Bool
  route : Option Route
deriving DecidableEq

/-- The slot. -/
abbrev Music := Option Track

namespace Track

/-- The request asks for this track. -/
def answers (t : Track) (request : MusicRequest) : Bool :=
  t.name == request.name && t.looping == request.loops

theorem answers_iff {t : Track} {request : MusicRequest} :
    t.answers request = true ↔ (t.name, t.looping) = (request.name, request.loops) := by
  simp [answers]

/-- Resumes the track if it is paused. -/
def resume (t : Track) : HostM H MusicOutcome := do
  if ← ask (.isPaused t.source) then
    let start ← t.source.start
    pure (.resumed start)
  else pure .alreadyPlaying

end Track

namespace Music

/-- Stops the track in the slot. -/
def stop : Music → HostM H Music
  | none => pure none
  | some t => do
    t.source.halt
    log (.musicStopped t.source t.name)
    pure none

/-- Puts a new track into the empty slot. -/
def begin (supply : Supply) (mixer : Mixer) (page : Option Url) (address : String)
    (request : MusicRequest) : HostM H (MusicOutcome × Supply × Music) := do
  match ← supply.create page address with
  | (.error failure, supply) =>
    log (.musicNotCreated address failure)
    pure (.failed failure, supply, none)
  | (.ok id, supply) =>
    ask (.setLooping id request.loops)
    ask (.setVolume id (Level.whole 1))
    let routing ← mixer.route page id .music .zero
    let start ← id.start
    log (.musicStarted id address request.loops routing.isAttached start)
    pure (.started id routing.isAttached start, supply,
      some ⟨id, request.name, request.loops, routing.route?⟩)

/-- Plays music. -/
def play (music : Music) (supply : Supply) (mixer : Mixer) (page : Option Url) (base : String)
    (request : MusicRequest) : HostM H (MusicOutcome × Supply × Music) := do
  match Address.resolve request.name base with
  | none => pure (.skipped, supply, music)
  | some address =>
    match music.filter (·.answers request) with
    | some t =>
      let outcome ← t.resume
      pure (outcome, supply, music)
    | none =>
      let _ ← music.stop
      begin supply mixer page address request

end Music

end SoundEngine
