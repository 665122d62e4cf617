import SoundEngine.Playback.Host

/-!
# A stage: a host made of data

A stage is a host whose answers follow a `Script`: what it supports, which calls fail and how, how
long a resumption waits.  It keeps every source it has built, with all that was set on it, so
that a session can be looked at after it is over.
-/

namespace SoundEngine.Stage

/-! ## 1. Script and media -/

/-- What a stage goes by. -/
structure Script where
  page : Option String := none
  graph : Bool := true
  context : Bool := true
  busFailures : List (Option GraphFailure) := []
  stereoPan : Bool := true
  createFailure : Option PlaybackFailure := none
  playFailure : Option PlaybackFailure := none
  wrapFailure : Option GraphFailure := none
  pannerFailure : Option GraphFailure := none
  connectFailure : Option GraphFailure := none
  connectBusFailure : Option GraphFailure := none
  endOnPlay : Bool := false
  pauseFails : List Nat := []
  seekFails : List Nat := []
  resumePolls : Nat := 0
  resumeFailure : Option ContextFailure := none
  resumeTo : ContextState := .running

/-- A source on the stage. -/
structure Media where
  source : SourceId
  address : String
  mode : FetchMode
  volume : Single := Binary.ofNat 1
  rate : Single := Binary.ofNat 1
  looping : Bool := false
  preload : Bool := false
  playing : Bool := false
  position : Double := .zero
  plays : Nat := 0
  attached : Bool := false

/-- The state of a stage: its script, the state of its context, how many buses were asked for, how
long the resumption still waits, and the media it has built. -/
structure State where
  script : Script
  context : ContextState := .suspended
  busCount : Nat := 0
  waiting : Nat := 0
  media : List Media := []

namespace State

/-- The page that the script names, if it can be read. -/
def page (s : State) : Option Url := s.script.page.bind (Url.ofText? none)

/-- A source on the stage. -/
def find? (s : State) (id : SourceId) : Option Media :=
  s.media.find? fun m => m.source == id

/-- Changes a source. -/
def change (s : State) (id : SourceId) (f : Media → Media) : State :=
  { s with media := s.media.map fun m => if m.source = id then f m else m }

end State

/-! ## 2. Answers -/

/-- Success, or the failure in the script. -/
def scripted {ε : Type} : Option ε → Except ε Unit
  | none => .ok ()
  | some failure => .error failure

/-- The name of the node of a source. -/
def mediaNode (id : SourceId) : Node := ⟨"media:" ++ toString id.number⟩

/-- The name of a panner. -/
def pannerNode (pan : Single) : Node := ⟨"panner:" ++ pan.hexadecimal⟩

/-- Makes the next bus. -/
def createBus (s : State) : Except GraphFailure BusNode × State :=
  let reply := match (s.script.busFailures[s.busCount]?).join with
    | some failure => .error failure
    | none => .ok ⟨s.busCount⟩
  (reply, { s with busCount := s.busCount + 1 })

/-- Plays a source; by the script it may end at once. -/
def play (s : State) (id : SourceId) : Except PlaybackFailure Unit × List Notice × State :=
  let s := s.change id fun m => { m with plays := m.plays + 1 }
  match s.script.playFailure with
  | some failure => (.error failure, [], s)
  | none =>
    if s.script.endOnPlay then
      (.ok (), [⟨id, .ended⟩], s.change id fun m => { m with playing := false })
    else (.ok (), [], s.change id fun m => { m with playing := true })

/-- Pauses a source; one that plays tells so. -/
def pause (s : State) (id : SourceId) : Except PlaybackFailure Unit × List Notice × State :=
  if s.script.pauseFails.contains id.number then
    (.error (.stop ("pause failed " ++ toString id.number)), [], s)
  else
    match s.find? id with
    | some m =>
      if m.playing then
        (.ok (), [⟨id, .paused m.position false⟩], s.change id fun m => { m with playing := false })
      else (.ok (), [], s)
    | none => (.ok (), [], s)

/-- Moves a source to a position. -/
def seek (s : State) (id : SourceId) (position : Double) :
    Except PlaybackFailure Unit × List Notice × State :=
  if s.script.seekFails.contains id.number then
    (.error (.stop ("seek failed " ++ toString id.number)), [], s)
  else (.ok (), [], s.change id fun m => { m with position })

/-- Wraps a source, once. -/
def wrap (s : State) (id : SourceId) : Except GraphFailure Node × State :=
  match s.script.wrapFailure with
  | some failure => (.error failure, s)
  | none =>
    if (s.find? id).any Media.attached then (.error .alreadyAttached, s)
    else (.ok (mediaNode id), s.change id fun m => { m with attached := true })

/-- Builds a source. -/
def create (s : State) (id : SourceId) (address : String) (mode : FetchMode) :
    Except PlaybackFailure Unit × State :=
  match s.script.createFailure with
  | some failure => (.error failure, s)
  | none => (.ok (), { s with media := s.media ++ [{ source := id, address, mode }] })

/-- How a resumption stands: it waits, or it ends as the script says. -/
def awaitResume (s : State) : Option (Except ContextFailure Unit) × State :=
  match s.waiting with
  | n + 1 => (none, { s with waiting := n })
  | 0 =>
    match s.script.resumeFailure with
    | some failure => (some (.error failure), s)
    | none => (some (.ok ()), { s with context := s.script.resumeTo })

/-- The stage as a host. -/
def host : Host where
  State := State
  answer
    | .pageAddress, s => (s.page, [], s)
    | .supportsGraph, s => (s.script.graph, [], s)
    | .createContext, s => (s.script.context, [], s)
    | .createBus _, s =>
      let (reply, s) := createBus s
      (reply, [], s)
    | .contextState, s => (s.context, [], s)
    | .resume, s => ((), [], { s with waiting := s.script.resumePolls })
    | .awaitResume, s =>
      let (reply, s) := awaitResume s
      (reply, [], s)
    | .supportsStereoPan, s => (s.script.stereoPan, [], s)
    | .createSource id address mode, s =>
      let (reply, s) := create s id address mode
      (reply, [], s)
    | .sourceAddress id, s => (((s.find? id).map Media.address).getD "", [], s)
    | .sourceVolume id, s => (((s.find? id).map Media.volume).getD .zero, [], s)
    | .isPaused id, s => (!(s.find? id).any Media.playing, [], s)
    | .setVolume id volume, s => ((), [], s.change id fun m => { m with volume })
    | .setRate id rate, s => ((), [], s.change id fun m => { m with rate })
    | .setLooping id looping, s => ((), [], s.change id fun m => { m with looping })
    | .setPreload id preload, s => ((), [], s.change id fun m => { m with preload })
    | .play id, s => play s id
    | .pause id, s => pause s id
    | .seek id position, s => seek s id position
    | .wrapSource id, s =>
      let (reply, s) := wrap s id
      (reply, [], s)
    | .createPanner pan, s =>
      match s.script.pannerFailure with
      | some failure => (.error failure, [], s)
      | none => (.ok (pannerNode pan), [], s)
    | .connect _ _, s => (scripted s.script.connectFailure, [], s)
    | .connectBus _ _, s => (scripted s.script.connectBusFailure, [], s)
    | .setBusGain _ _, s => ((), [], s)

/-! ## 3. What happens by itself -/

/-- A source ends. -/
def finish (s : State) (id : SourceId) : State × List Notice :=
  (s.change id fun m => { m with playing := false }, [⟨id, .ended⟩])

/-- A source pauses at a position. -/
def pauseAt (s : State) (id : SourceId) (position : Double) (atEnd : Bool) : State × List Notice :=
  (s.change id fun m => { m with playing := false, position }, [⟨id, .paused position atEnd⟩])

/-- A source is at a position. -/
def place (s : State) (id : SourceId) (position : Double) : State :=
  s.change id fun m => { m with position }

end SoundEngine.Stage
