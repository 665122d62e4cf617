import SoundEngine.Playback.Host

/-!
# The mixer

The mixer has the three buses and knows whether there is a processing context.  A bus is LIVE when
the context made a node for it.  A source is routed through a live bus, by way of a panner if the
host has one; where that cannot be, it plays past the buses.  Such a source is scaled once by the
gain of its bus, so that it is as loud as it would have been; later changes of the gain do not
reach it.  If the bus is not live nothing is scaled.
-/

namespace SoundEngine

variable {H : Host}

/-! ## 1. Buses -/

/-- A bus: its gain, and its node if it is live. -/
structure Bus where
  gain : Single
  node : Option BusNode
deriving DecidableEq

namespace Bus

/-- A bus with its gain brought into its range. -/
def of (gain : Single) (node : Option BusNode) : Bus := ⟨Level.gain gain, node⟩

/-- The bus has a node. -/
def isLive (b : Bus) : Bool := b.node.isSome

/-- Sets the gain, brought into its range; the node follows. -/
def setGain (b : Bus) (gain : Single) : HostM H Bus := do
  let b := Bus.of gain b.node
  match b.node with
  | some node => ask (.setBusGain node b.gain)
  | none => pure ()
  pure b

/-- Makes a live bus, or one that is not live if the host makes no node. -/
def create (kind : BusKind) (gain : Single) : HostM H Bus := do
  match ← ask (.createBus gain) with
  | .ok node => pure (.of gain (some node))
  | .error failure =>
    log (.busMissing kind failure)
    pure (.of gain none)

end Bus

/-! ## 2. The mixer -/

/-- Whether there is a context, and the buses. -/
structure Mixer where
  hasContext : Bool
  buses : PerBus Bus
deriving DecidableEq

namespace Mixer

/-- Makes the buses in their order.  Without a context none of them is live. -/
def build (hasContext : Bool) (gains : Gains) : HostM H Mixer := do
  if hasContext then
    let effects ← Bus.create .effects (gains.level .effects)
    let music ← Bus.create .music (gains.level .music)
    let ambience ← Bus.create .ambience (gains.level .ambience)
    pure ⟨true, effects, music, ambience⟩
  else pure ⟨false, .of fun kind => .of (gains.level kind) none⟩

/-- The gain of a bus. -/
def gain (m : Mixer) (kind : BusKind) : Single := (m.buses.get kind).gain

/-- Sets the gain of a bus. -/
def setGain (m : Mixer) (kind : BusKind) (gain : Single) : HostM H Mixer := do
  let bus ← (m.buses.get kind).setGain gain
  pure { m with buses := m.buses.set kind bus }

/-- The node through which a source for this bus is routed. -/
def target? (m : Mixer) (kind : BusKind) : Option BusNode :=
  if m.hasContext then (m.buses.get kind).node else none

/-! ## 3. Routing -/

/-- Wraps a source in a node and connects it with a bus, by way of a panner if there are any.
The first step that fails ends the chain. -/
def chain (source : SourceId) (bus : BusNode) (pan : Single) : HostM H (Except GraphFailure Route) :=
  ExceptT.run do
    let node ← ExceptT.mk (ask (.wrapSource source))
    if ← (ask .supportsStereoPan : HostM H Bool) then
      let panner ← ExceptT.mk (ask (.createPanner (Level.pan pan)))
      ExceptT.mk (ask (.connect node panner))
      ExceptT.mk (ask (.connectBus panner bus))
      pure ⟨node, some panner⟩
    else
      ExceptT.mk (ask (.connectBus node bus))
      pure ⟨node, none⟩

/-- Routes a source through a bus if that can be done: there must be a live bus, and the source
must not be of another origin. -/
def attach (m : Mixer) (page : Option Url) (source : SourceId) (kind : BusKind) (pan : Single) :
    HostM H Routing := do
  match m.target? kind with
  | none => pure (.direct .noGraph)
  | some bus =>
    if Url.isCrossOrigin page (← ask (.sourceAddress source)) then pure (.direct .crossOrigin)
    else
      match ← chain source bus pan with
      | .ok route => pure (.attached route)
      | .error failure => pure (.direct (.graph failure))

/-- Scales a source by the gain of its bus, if that is live. -/
def scale (m : Mixer) (source : SourceId) (kind : BusKind) : HostM H Unit := do
  let bus := m.buses.get kind
  if bus.isLive then
    let volume ← ask (.sourceVolume source)
    ask (.setVolume source (volume.mul bus.gain))

/-- Routes a source through a bus, or scales it and lets it play past the buses. -/
def route (m : Mixer) (page : Option Url) (source : SourceId) (kind : BusKind) (pan : Single) :
    HostM H Routing := do
  let routing ← m.attach page source kind pan
  match routing with
  | .attached _ => pure ()
  | .direct reason =>
    m.scale source kind
    log (.unrouted kind (← ask (.sourceAddress source)) reason)
  pure routing

end Mixer

end SoundEngine
