import SoundEngine.Playback.Host

/-!
# A source on its own

A host with one source and nothing else: no context, no settings of the source.  It notes what it
is asked to do with the source, and fails as it was told to.
-/

namespace SoundEngine.BareSource

/-- The source: its address, how its calls fail, whether it is paused. -/
structure State where
  address : String
  playFailure : Option PlaybackFailure := none
  pauseFailure : Option PlaybackFailure := none
  seekFailure : Option PlaybackFailure := none
  paused : Bool := true

/-- A call that fails as told, or succeeds and leaves the source paused or not. -/
def attempt (s : State) (failure : Option PlaybackFailure) (paused : Bool) :
    Except PlaybackFailure Unit × List Notice × State :=
  match failure with
  | some failure => (.error failure, [], s)
  | none => (.ok (), [], { s with paused })

/-- The source as a host. -/
def host : Host where
  State := State
  answer
    | .pageAddress, s => (none, [], s)
    | .supportsGraph, s => (false, [], s)
    | .createContext, s => (false, [], s)
    | .createBus _, s => (.error .alreadyAttached, [], s)
    | .contextState, s => (.closed, [], s)
    | .resume, s => ((), [], s)
    | .awaitResume, s => (some (.error .closed), [], s)
    | .supportsStereoPan, s => (false, [], s)
    | .createSource _ _ _, s => (.ok (), [], s)
    | .sourceAddress _, s => (s.address, [], s)
    | .sourceVolume _, s => (Binary.ofNat 1, [], s)
    | .isPaused _, s => (s.paused, [], s)
    | .setVolume _ _, s => ((), [], s)
    | .setRate _ _, s => ((), [], s)
    | .setLooping _ _, s => ((), [], s)
    | .setPreload _ _, s => ((), [], s)
    | .play _, s => attempt s s.playFailure false
    | .pause _, s => attempt s s.pauseFailure true
    | .seek _ _, s => attempt s s.seekFailure s.paused
    | .wrapSource _, s => (.error .alreadyAttached, [], s)
    | .createPanner _, s => (.error .alreadyAttached, [], s)
    | .connect _ _, s => (.error .alreadyAttached, [], s)
    | .connectBus _ _, s => (.error .alreadyAttached, [], s)
    | .setBusGain _ _, s => ((), [], s)

end SoundEngine.BareSource
