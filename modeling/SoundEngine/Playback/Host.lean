import SoundEngine.Playback.Record
import SoundEngine.Url.Origin

/-!
# The host

The engine reaches everything outside itself by CALLS, and a host is what answers them.  A host has
a state of its own, and with each answer it may report events of sources.  Nothing is assumed of
a host: every statement about the engine that names no condition holds for all of them.

Events never interrupt the engine.  They wait in a mailbox until the engine drains it.  A
`Session` holds the host's state, the mailbox, and the CHRONICLE of all calls with their answers and
of all log records, in the order in which they happened.
-/

namespace SoundEngine

/-! ## 1. Calls -/

/-- The node of a bus. -/
structure BusNode where
  index : Nat
deriving DecidableEq

/-- What the engine can ask of a host. -/
inductive Call where
  | pageAddress
  | supportsGraph
  | createContext
  | createBus (gain : Single)
  | contextState
  | resume
  | awaitResume
  | supportsStereoPan
  | createSource (source : SourceId) (address : String) (mode : FetchMode)
  | sourceAddress (source : SourceId)
  | sourceVolume (source : SourceId)
  | isPaused (source : SourceId)
  | setVolume (source : SourceId) (volume : Single)
  | setRate (source : SourceId) (rate : Single)
  | setLooping (source : SourceId) (looping : Bool)
  | setPreload (source : SourceId) (eager : Bool)
  | play (source : SourceId)
  | pause (source : SourceId)
  | seek (source : SourceId) (position : Double)
  | wrapSource (source : SourceId)
  | createPanner (pan : Single)
  | connect (start finish : Node)
  | connectBus (start : Node) (bus : BusNode)
  | setBusGain (bus : BusNode) (gain : Single)
deriving DecidableEq

namespace Call

/-- What a host answers.  `createContext` tells whether there is a context now; `awaitResume`
tells that the resumption still waits (`none`) or how it ended. -/
@[reducible] def Reply : Call → Type
  | .pageAddress => Option Url
  | .supportsGraph => Bool
  | .createContext => Bool
  | .createBus _ => Except GraphFailure BusNode
  | .contextState => ContextState
  | .resume => Unit
  | .awaitResume => Option (Except ContextFailure Unit)
  | .supportsStereoPan => Bool
  | .createSource _ _ _ => Except PlaybackFailure Unit
  | .sourceAddress _ => String
  | .sourceVolume _ => Single
  | .isPaused _ => Bool
  | .setVolume _ _ => Unit
  | .setRate _ _ => Unit
  | .setLooping _ _ => Unit
  | .setPreload _ _ => Unit
  | .play _ => Except PlaybackFailure Unit
  | .pause _ => Except PlaybackFailure Unit
  | .seek _ _ => Except PlaybackFailure Unit
  | .wrapSource _ => Except GraphFailure Node
  | .createPanner _ => Except GraphFailure Node
  | .connect _ _ => Except GraphFailure Unit
  | .connectBus _ _ => Except GraphFailure Unit
  | .setBusGain _ _ => Unit

/-- The call only asks how things are. -/
def isQuestion : Call → Bool
  | .pageAddress | .supportsGraph | .contextState | .awaitResume | .supportsStereoPan
  | .sourceAddress _ | .sourceVolume _ | .isPaused _ => true
  | _ => false

/-- The source that the call is about. -/
def source? : Call → Option SourceId
  | .createSource id _ _ | .sourceAddress id | .sourceVolume id | .isPaused id | .setVolume id _
  | .setRate id _ | .setLooping id _ | .setPreload id _ | .play id | .pause id | .seek id _
  | .wrapSource id => some id
  | _ => none

end Call

/-! ## 2. Hosts and sessions -/

/-- A host: its states, and its answer to a call in a state, with the events it reports and the
state after it. -/
structure Host where
  State : Type
  answer : (c : Call) → State → c.Reply × List Notice × State

/-- Something that happened. -/
inductive Entry where
  | exchange (call : Call) (reply : call.Reply)
  | record (record : Record)

/-- Where events wait.  Once it is closed, events are lost. -/
inductive Mailbox where
  | listening (waiting : List Notice)
  | closed
deriving DecidableEq

/-- The events that wait. -/
def Mailbox.waiting : Mailbox → List Notice
  | .listening notices => notices
  | .closed => []

/-- A host in a state, the events that wait, and what has happened. -/
structure Session (H : Host) where
  host : H.State
  mailbox : Mailbox
  chronicle : List Entry

namespace Session

variable {H : Host}

/-- A session in which nothing has happened. -/
def fresh (host : H.State) : Session H := ⟨host, .listening [], []⟩

/-- Adds to the chronicle. -/
def note (s : Session H) (e : Entry) : Session H := { s with chronicle := s.chronicle ++ [e] }

/-- Events arrive: they wait behind the others, or are lost with a record each. -/
def deliver (s : Session H) (notices : List Notice) : Session H :=
  match s.mailbox with
  | .listening waiting => { s with mailbox := .listening (waiting ++ notices) }
  | .closed =>
    { s with chronicle := s.chronicle ++ notices.map fun n => .record (.noticeDropped n) }

/-- The calls that were made, in their order. -/
def calls (s : Session H) : List Call :=
  s.chronicle.filterMap fun
    | .exchange call _ => some call
    | .record _ => none

/-- The log, in its order. -/
def records (s : Session H) : List Record :=
  s.chronicle.filterMap fun
    | .exchange _ _ => none
    | .record r => some r

end Session

/-! ## 3. Steps of the engine -/

/-- A step that may call the host. -/
abbrev HostM (H : Host) := StateM (Session H)

variable {H : Host}

/-- Makes a call.  The events that come with the answer arrive after it. -/
def ask (c : Call) : HostM H c.Reply := fun s =>
  let (reply, notices, host) := H.answer c s.host
  (reply, { s.note (.exchange c reply) with host }.deliver notices)

/-- Makes a record. -/
def log (r : Record) : HostM H Unit := modify fun s => s.note (.record r)

/-- Takes all events that wait. -/
def takeNotices : HostM H (List Notice) := fun s =>
  match s.mailbox with
  | .listening waiting => (waiting, { s with mailbox := .listening [] })
  | .closed => ([], s)

end SoundEngine
