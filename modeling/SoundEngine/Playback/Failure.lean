import SoundEngine.Text.Quoted

/-!
# What can go wrong

The host may refuse to build or connect a node, to start or stop a source, or to let the
processing context run.  None of these failures leaves the engine: they are what outcomes and log
records tell about.  Each has a sentence for readers and a `form` that shows its parts.
-/

namespace SoundEngine

/-- A node could not be built or connected. -/
inductive GraphFailure where
  | alreadyAttached
  | nodeCreation (node reason : String)
  | connection (reason : String)
deriving DecidableEq

/-- A source could not be built, started or stopped. -/
inductive PlaybackFailure where
  | startRefused (reason : String)
  | media (reason : String)
  | stop (reason : String)
deriving DecidableEq

/-- The processing context could not be resumed. -/
inductive ContextFailure where
  | closed
  | resume (reason : String)
deriving DecidableEq

namespace GraphFailure

/-- What the failure says. -/
def message : GraphFailure → String
  | .alreadyAttached => "Source is already attached to a processing graph"
  | .nodeCreation node reason => "Failed to create " ++ node ++ " node: " ++ reason
  | .connection reason => "Failed to connect nodes: " ++ reason

/-- The failure with its parts. -/
def form : GraphFailure → String
  | .alreadyAttached => "AlreadyAttached"
  | .nodeCreation node reason =>
    "NodeCreation \x7b node: " ++ quoted node ++ ", reason: " ++ quoted reason ++ " \x7d"
  | .connection reason => "Connection(" ++ quoted reason ++ ")"

end GraphFailure

namespace PlaybackFailure

/-- What the failure says. -/
def message : PlaybackFailure → String
  | .startRefused reason => "Playback start refused: " ++ reason
  | .media reason => "Media error: " ++ reason
  | .stop reason => "Failed to stop source: " ++ reason

/-- The failure with its parts. -/
def form : PlaybackFailure → String
  | .startRefused reason => "StartRefused(" ++ quoted reason ++ ")"
  | .media reason => "Media(" ++ quoted reason ++ ")"
  | .stop reason => "Stop(" ++ quoted reason ++ ")"

end PlaybackFailure

namespace ContextFailure

/-- What the failure says. -/
def message : ContextFailure → String
  | .closed => "Processing context is closed"
  | .resume reason => "Failed to resume processing context: " ++ reason

/-- The failure with its parts. -/
def form : ContextFailure → String
  | .closed => "Closed"
  | .resume reason => "Resume(" ++ quoted reason ++ ")"

end ContextFailure

end SoundEngine
