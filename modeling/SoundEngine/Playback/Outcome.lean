import SoundEngine.Playback.Failure
import SoundEngine.Playback.Source

/-!
# Outcomes

What came of a request.  A request that is not fulfilled is no error: it has an outcome that says
how far it came.
-/

namespace SoundEngine

/-- What came of asking a source to play. -/
inductive Start where
  | started
  | notStarted (failure : PlaybackFailure)
deriving DecidableEq

namespace Start

/-- The source accepted the request to play. -/
def isStarted : Start → Bool
  | .started => true
  | .notStarted _ => false

/-- The result with its parts. -/
def form : Start → String
  | .started => "Started"
  | .notStarted failure => "NotStarted(" ++ failure.form ++ ")"

end Start

/-- A node of the processing graph, by the name the host gave it. -/
structure Node where
  name : String
deriving DecidableEq

/-- The nodes that a routed source holds: its own, and the panner if there is one. -/
structure Route where
  source : Node
  panner : Option Node
deriving DecidableEq

/-- Why a source plays past the buses. -/
inductive DirectReason where
  | noGraph
  | crossOrigin
  | graph (failure : GraphFailure)
deriving DecidableEq

/-- The reason with its parts. -/
def DirectReason.form : DirectReason → String
  | .noGraph => "NoGraph"
  | .crossOrigin => "CrossOrigin"
  | .graph failure => "Graph(" ++ failure.form ++ ")"

/-- What came of routing a source through a bus. -/
inductive Routing where
  | attached (route : Route)
  | direct (reason : DirectReason)
deriving DecidableEq

namespace Routing

/-- The source is heard through its bus. -/
def isAttached : Routing → Bool
  | .attached _ => true
  | .direct _ => false

/-- The nodes to hold. -/
def route? : Routing → Option Route
  | .attached route => some route
  | .direct _ => none

end Routing

/-- What came of a request for an effect. -/
inductive EffectOutcome where
  | skipped
  | failed (failure : PlaybackFailure)
  | played (source : SourceId) (attached : Bool) (start : Start)
deriving DecidableEq

/-- The outcome with its parts. -/
def EffectOutcome.form : EffectOutcome → String
  | .skipped => "Skipped"
  | .failed failure => "Failed(" ++ failure.form ++ ")"
  | .played source attached start =>
    "Played \x7b id: " ++ source.form ++ ", attached: " ++ toString attached ++ ", start: " ++
      start.form ++ " \x7d"

/-- What came of a request for music. -/
inductive MusicOutcome where
  | skipped
  | failed (failure : PlaybackFailure)
  | alreadyPlaying
  | resumed (start : Start)
  | started (source : SourceId) (attached : Bool) (start : Start)
deriving DecidableEq

/-- The outcome with its parts. -/
def MusicOutcome.form : MusicOutcome → String
  | .skipped => "Skipped"
  | .failed failure => "Failed(" ++ failure.form ++ ")"
  | .alreadyPlaying => "AlreadyPlaying"
  | .resumed start => "Resumed(" ++ start.form ++ ")"
  | .started source attached start =>
    "Started \x7b id: " ++ source.form ++ ", attached: " ++ toString attached ++ ", start: " ++
      start.form ++ " \x7d"

end SoundEngine
