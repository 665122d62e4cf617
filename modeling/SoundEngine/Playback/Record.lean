import SoundEngine.Mix.Bus
import SoundEngine.Playback.Outcome

/-!
# The log

Every failure that is absorbed leaves a record, and so do some things that went well.  A record is
a fact; its level and its text are functions of it.
-/

namespace SoundEngine

/-- How much a record matters. -/
inductive LogLevel where
  | trace
  | debug
  | warn
deriving DecidableEq

/-- How a level is written. -/
def LogLevel.name : LogLevel → String
  | .trace => "TRACE"
  | .debug => "DEBUG"
  | .warn => "WARN"

/-- A fact worth a record. -/
inductive Record where
  | noContext
  | busMissing (bus : BusKind) (failure : GraphFailure)
  | unlockFailed (failure : ContextFailure)
  | musicNotCreated (address : String) (failure : PlaybackFailure)
  | effectNotCreated (address : String) (failure : PlaybackFailure)
  | notStarted (address : String) (failure : PlaybackFailure)
  | notHalted (address : String) (failure : PlaybackFailure)
  | unrouted (bus : BusKind) (address : String) (reason : DirectReason)
  | musicStarted (source : SourceId) (address : String) (looping attached : Bool) (start : Start)
  | musicStopped (source : SourceId) (name : String)
  | created (source : SourceId) (address : String) (mode : FetchMode)
  | effectStarted (source : SourceId) (address : String) (attached : Bool) (start : Start)
  | effectFinished (notice : Notice)
  | noticeDropped (notice : Notice)
deriving DecidableEq

namespace Record

/-- How much each record matters: what takes sound or routing away from everything is a warning. -/
def level : Record → LogLevel
  | .noContext => .warn
  | .busMissing _ _ => .warn
  | .unlockFailed _ => .warn
  | .musicNotCreated _ _ => .warn
  | .effectNotCreated _ _ => .debug
  | .notStarted _ _ => .debug
  | .notHalted _ _ => .debug
  | .unrouted _ _ _ => .debug
  | .musicStarted _ _ _ _ _ => .debug
  | .musicStopped _ _ => .debug
  | .created _ _ _ => .trace
  | .effectStarted _ _ _ _ => .trace
  | .effectFinished _ => .trace
  | .noticeDropped _ => .trace

/-- What a record says. -/
def text : Record → String
  | .noContext => "No audio processing context; sounds will play unrouted"
  | .busMissing bus failure =>
    "Failed to create " ++ bus.name ++ " bus, playing unrouted: " ++ failure.message
  | .unlockFailed failure => "Audio unlock failed: " ++ failure.message
  | .musicNotCreated address failure =>
    "Could not create music source for " ++ address ++ ": " ++ failure.message
  | .effectNotCreated address failure =>
    "Could not create effect source for " ++ address ++ ": " ++ failure.message
  | .notStarted address failure =>
    "Playback of " ++ address ++ " did not start: " ++ failure.message
  | .notHalted address failure =>
    "Ignoring stop failure for " ++ address ++ ": " ++ failure.message
  | .unrouted bus address reason =>
    bus.name ++ " source " ++ address ++ " plays unrouted: " ++ reason.form
  | .musicStarted source address looping attached start =>
    "Music " ++ source.label ++ " (" ++ address ++ ") looping=" ++ toString looping ++
      " attached=" ++ toString attached ++ " " ++ start.form
  | .musicStopped source name => "Stopped music " ++ source.label ++ " (" ++ name ++ ")"
  | .created source address mode =>
    "Created " ++ source.label ++ " for " ++ address ++ " (" ++ mode.form ++ ")"
  | .effectStarted source address attached start =>
    "Effect " ++ source.label ++ " (" ++ address ++ ") attached=" ++ toString attached ++ " " ++
      start.form
  | .effectFinished notice =>
    "Effect " ++ notice.source.label ++ " finished (" ++ notice.event.form ++ ")"
  | .noticeDropped notice =>
    "Dropped " ++ notice.event.form ++ " for " ++ notice.source.label ++ ": engine gone"

/-- The record as a line of the log. -/
def line (r : Record) : String := r.level.name ++ " " ++ r.text

end Record

end SoundEngine
