import SoundEngine.Decimal.Layout
import SoundEngine.Json.Decoder
import SoundEngine.Json.Writer

/-!
# Sources and contexts

A SOURCE is one piece of media that the host can play.  The engine numbers the sources it asks for,
and a source tells by EVENTS that it has ended or paused.  The processing CONTEXT is the host's
audio graph; it must run before anything routed through it is heard.
-/

namespace SoundEngine

/-! ## 1. Numbers of sources -/

/-- The number of a source, by which it is known for ever. -/
structure SourceId where
  number : Nat
deriving DecidableEq

namespace SourceId

open Json

/-- How a source is called in messages. -/
def label (id : SourceId) : String := "source#" ++ toString id.number

/-- The number with its parts. -/
def form (id : SourceId) : String := "SourceId(" ++ toString id.number ++ ")"

/-- Reads a document. -/
def ofText (s : String) : Except Error SourceId :=
  SourceId.mk <$> Reader.run Decoder.natural.reader s

/-- The number as a document. -/
def toText (id : SourceId) : String := String.ofList (writeNatural id.number)

end SourceId

/-! ## 2. Events -/

/-- What a source tells about its own playback. -/
inductive SourceEvent where
  | ended
  | paused (position : Double) (atEnd : Bool)
deriving DecidableEq

namespace SourceEvent

/-- The source will not play on by itself: it ended, or it was paused at its end or at its very
beginning. -/
def isFinal : SourceEvent → Bool
  | .ended => true
  | .paused position atEnd => atEnd || position.equal .zero

/-- How a position is shown in messages. -/
def positionLayout : Layout := ⟨-4, 15, false, .up⟩

/-- The event with its parts. -/
def form : SourceEvent → String
  | .ended => "Ended"
  | .paused position atEnd =>
    "Paused \x7b position: " ++ String.ofList (positionLayout.number position) ++ ", ended: " ++
      toString atEnd ++ " \x7d"

end SourceEvent

/-- An event with the source that it comes from. -/
structure Notice where
  source : SourceId
  event : SourceEvent
deriving DecidableEq

/-! ## 3. How media is fetched -/

/-- Whether media is fetched without credentials, which media of another origin needs to be
usable in a graph. -/
inductive FetchMode where
  | standard
  | anonymous
deriving DecidableEq

namespace FetchMode

open Json

/-- The name of a mode. -/
def form : FetchMode → String
  | .standard => "Default"
  | .anonymous => "Anonymous"

/-- Each name with its mode. -/
def names : List (String × FetchMode) := [.standard, .anonymous].map fun m => (m.form, m)

/-- Reads a document. -/
def ofText (s : String) : Except Error FetchMode := Reader.run (enumeration names) s

/-- The mode as a document. -/
def toText (m : FetchMode) : String := String.ofList (writeText m.form)

end FetchMode

/-! ## 4. The state of a context -/

/-- The state of a processing context. -/
inductive ContextState where
  | suspended
  | running
  | closed
deriving DecidableEq

namespace ContextState

open Json

/-- The name of a state. -/
def form : ContextState → String
  | .suspended => "Suspended"
  | .running => "Running"
  | .closed => "Closed"

/-- Each name with its state. -/
def names : List (String × ContextState) := [.suspended, .running, .closed].map fun s => (s.form, s)

/-- Reads a document. -/
def ofText (s : String) : Except Error ContextState := Reader.run (enumeration names) s

/-- The state as a document. -/
def toText (s : ContextState) : String := String.ofList (writeText s.form)

end ContextState

end SoundEngine
