import Mathlib.Data.List.Forall2
import SoundEngine.Proofs.Delivery

/-!
# Two runs that correspond

`Proofs.Twins` compares two runs that do the very same.  Here the two runs may do things that only
CORRESPOND: one source stands for another, a node for a node that was given another name, and a
level for another level.  A `Likeness` says what stands for what.

* §1 carries a likeness over from sources, nodes and levels to whatever is made of them: calls with
  their answers, events, and what the engine keeps and tells.
* §2 is the calculus.  `Mates K P Q V m m'` says that `m` and `m'`, from sessions whose hosts are
  related by `P`, make corresponding calls and are told corresponding events; their results are
  related by `V`, and their hosts by `Q` in the end.
* §3 goes through the functions of the engine.  Nothing in the graph names the source that it is
  for, so what the host makes of such a call may depend on the source that was named last.  This is
  why the hosts are related in two ways: by `R` always, and by `T`, which is narrower, from the
  moment on that a source has been named.
* §4 is about the tracked effects, and §5 about passages: what two operations do after the drain
  corresponds, and so do the passages in which they do it.
-/

namespace SoundEngine

variable {H : Host} {α α' β β' : Type}

/-! ## 1. What corresponds -/

/-- Both attempts succeed, with related results, or both fail in one way. -/
inductive Results {ε : Type} (r : α → α → Prop) : Except ε α → Except ε α → Prop
  | ok {a a' : α} (h : r a a') : Results r (.ok a) (.ok a')
  | error (failure : ε) : Results r (.error failure) (.error failure)

/-- What in the one run stands for what in the other: which sources, which nodes, and whether levels have
to be the same.  Two runs that do the same but for the numbers of their sources, or but for their levels,
are runs that are alike in this sense. -/
structure Likeness where
  source : SourceId → SourceId → Prop
  node : Node → Node → Prop
  /-- Levels are the same in both. -/
  exact : Prop

namespace Likeness

/-- Two levels correspond. -/
def Level (K : Likeness) (x y : Single) : Prop := K.exact → y = x

/-- Two calls correspond, and so do their answers.  What stands for a source, a node or a level in the one
stands for it in the other; everything else, and above all whether a call succeeds and how it fails, is
the same in both. -/
inductive Exchanges (K : Likeness) : Exchange → Exchange → Prop
  | pageAddress (page : Option Url) : Exchanges K ⟨.pageAddress, page⟩ ⟨.pageAddress, page⟩
  | supportsGraph (yes : Bool) : Exchanges K ⟨.supportsGraph, yes⟩ ⟨.supportsGraph, yes⟩
  | createContext (made : Bool) : Exchanges K ⟨.createContext, made⟩ ⟨.createContext, made⟩
  | createBus {gain gain' : Single} (h : K.Level gain gain')
      (reply : Except GraphFailure BusNode) :
      Exchanges K ⟨.createBus gain, reply⟩ ⟨.createBus gain', reply⟩
  | contextState (state : ContextState) :
      Exchanges K ⟨.contextState, state⟩ ⟨.contextState, state⟩
  | resume : Exchanges K ⟨.resume, ()⟩ ⟨.resume, ()⟩
  | awaitResume (reply : Option (Except ContextFailure Unit)) :
      Exchanges K ⟨.awaitResume, reply⟩ ⟨.awaitResume, reply⟩
  | supportsStereoPan (yes : Bool) :
      Exchanges K ⟨.supportsStereoPan, yes⟩ ⟨.supportsStereoPan, yes⟩
  | createSource {id id' : SourceId} (h : K.source id id') (address : String) (mode : FetchMode)
      (reply : Except PlaybackFailure Unit) :
      Exchanges K ⟨.createSource id address mode, reply⟩ ⟨.createSource id' address mode, reply⟩
  | sourceAddress {id id' : SourceId} (h : K.source id id') (address : String) :
      Exchanges K ⟨.sourceAddress id, address⟩ ⟨.sourceAddress id', address⟩
  | sourceVolume {id id' : SourceId} (h : K.source id id') {volume volume' : Single}
      (hvolume : K.Level volume volume') :
      Exchanges K ⟨.sourceVolume id, volume⟩ ⟨.sourceVolume id', volume'⟩
  | isPaused {id id' : SourceId} (h : K.source id id') (paused : Bool) :
      Exchanges K ⟨.isPaused id, paused⟩ ⟨.isPaused id', paused⟩
  | setVolume {id id' : SourceId} (h : K.source id id') {volume volume' : Single}
      (hvolume : K.Level volume volume') :
      Exchanges K ⟨.setVolume id volume, ()⟩ ⟨.setVolume id' volume', ()⟩
  | setRate {id id' : SourceId} (h : K.source id id') {rate rate' : Single}
      (hrate : K.Level rate rate') : Exchanges K ⟨.setRate id rate, ()⟩ ⟨.setRate id' rate', ()⟩
  | setLooping {id id' : SourceId} (h : K.source id id') (looping : Bool) :
      Exchanges K ⟨.setLooping id looping, ()⟩ ⟨.setLooping id' looping, ()⟩
  | setPreload {id id' : SourceId} (h : K.source id id') (eager : Bool) :
      Exchanges K ⟨.setPreload id eager, ()⟩ ⟨.setPreload id' eager, ()⟩
  | play {id id' : SourceId} (h : K.source id id') (reply : Except PlaybackFailure Unit) :
      Exchanges K ⟨.play id, reply⟩ ⟨.play id', reply⟩
  | pause {id id' : SourceId} (h : K.source id id') (reply : Except PlaybackFailure Unit) :
      Exchanges K ⟨.pause id, reply⟩ ⟨.pause id', reply⟩
  | seek {id id' : SourceId} (h : K.source id id') (position : Double)
      (reply : Except PlaybackFailure Unit) :
      Exchanges K ⟨.seek id position, reply⟩ ⟨.seek id' position, reply⟩
  | wrapSource {id id' : SourceId} (h : K.source id id')
      {reply reply' : Except GraphFailure Node} (hreply : Results K.node reply reply') :
      Exchanges K ⟨.wrapSource id, reply⟩ ⟨.wrapSource id', reply'⟩
  | createPanner {pan pan' : Single} (h : K.Level pan pan')
      {reply reply' : Except GraphFailure Node} (hreply : Results K.node reply reply') :
      Exchanges K ⟨.createPanner pan, reply⟩ ⟨.createPanner pan', reply'⟩
  | connect {start start' finish finish' : Node} (hstart : K.node start start')
      (hfinish : K.node finish finish') (reply : Except GraphFailure Unit) :
      Exchanges K ⟨.connect start finish, reply⟩ ⟨.connect start' finish', reply⟩
  | connectBus {start start' : Node} (h : K.node start start') (bus : BusNode)
      (reply : Except GraphFailure Unit) :
      Exchanges K ⟨.connectBus start bus, reply⟩ ⟨.connectBus start' bus, reply⟩
  | setBusGain (bus : BusNode) {gain gain' : Single} (h : K.Level gain gain') :
      Exchanges K ⟨.setBusGain bus gain, ()⟩ ⟨.setBusGain bus gain', ()⟩

/-- Two calls correspond. -/
def Calls (K : Likeness) (c c' : Call) : Prop :=
  ∃ reply reply', K.Exchanges ⟨c, reply⟩ ⟨c', reply'⟩

/-- The two routes are made of corresponding nodes. -/
structure Routes (K : Likeness) (r r' : Route) : Prop where
  source : K.node r.source r'.source
  panner : Option.Rel K.node r.panner r'.panner

/-- Both sources are routed, or neither is, for one reason. -/
inductive Routings (K : Likeness) : Routing → Routing → Prop
  | attached {route route' : Route} (h : K.Routes route route') :
      Routings K (.attached route) (.attached route')
  | direct (reason : DirectReason) : Routings K (.direct reason) (.direct reason)

/-- The two events are one event, of sources that correspond. -/
structure Notices (K : Likeness) (n n' : Notice) : Prop where
  source : K.source n.source n'.source
  event : n'.event = n.event

/-- Two tracked effects correspond. -/
structure Effects (K : Likeness) (e e' : ActiveEffect) : Prop where
  source : K.source e.source e'.source
  route : Option.Rel K.Routes e.route e'.route

/-- Two tracks correspond. -/
structure Tracks (K : Likeness) (t t' : Track) : Prop where
  source : K.source t.source t'.source
  name : t'.name = t.name
  looping : t'.looping = t.looping
  route : Option.Rel K.Routes t.route t'.route

/-- The two requests are for one effect, at corresponding levels. -/
structure Requests (K : Likeness) (r r' : EffectRequest) : Prop where
  name : r'.name = r.name
  volume : K.Level r.volumeFactor r'.volumeFactor
  rate : K.Level r.rateFactor r'.rateFactor
  pan : K.Level r.panFactor r'.panFactor

/-- Two buses correspond. -/
structure Buses (K : Likeness) (b b' : Bus) : Prop where
  node : b'.node = b.node
  gain : K.Level b.gain b'.gain

/-- Two mixers correspond. -/
structure Mixers (K : Likeness) (m m' : Mixer) : Prop where
  hasContext : m'.hasContext = m.hasContext
  buses : ∀ kind, K.Buses (m.buses.get kind) (m'.buses.get kind)

/-- One thing came of two requests for effects, with sources that correspond. -/
inductive EffectOutcomes (K : Likeness) : EffectOutcome → EffectOutcome → Prop
  | skipped : EffectOutcomes K .skipped .skipped
  | failed (failure : PlaybackFailure) : EffectOutcomes K (.failed failure) (.failed failure)
  | played {id id' : SourceId} (h : K.source id id') (attached : Bool) (start : Start) :
      EffectOutcomes K (.played id attached start) (.played id' attached start)

/-- One thing came of two requests for music, with sources that correspond. -/
inductive MusicOutcomes (K : Likeness) : MusicOutcome → MusicOutcome → Prop
  | skipped : MusicOutcomes K .skipped .skipped
  | failed (failure : PlaybackFailure) : MusicOutcomes K (.failed failure) (.failed failure)
  | alreadyPlaying : MusicOutcomes K .alreadyPlaying .alreadyPlaying
  | resumed (start : Start) : MusicOutcomes K (.resumed start) (.resumed start)
  | started {id id' : SourceId} (h : K.source id id') (attached : Bool) (start : Start) :
      MusicOutcomes K (.started id attached start) (.started id' attached start)

/-- What two requests for effects do to their supplies and to the tracked effects, if they are not
skipped. -/
inductive Played (K : Likeness) (supply supply' : Supply)
    (effects effects' : SoundEngine.Effects) :
    EffectOutcome × Supply × SoundEngine.Effects → EffectOutcome × Supply × SoundEngine.Effects →
      Prop
  | failed (failure : PlaybackFailure) : Played K supply supply' effects effects'
      (.failed failure, supply.spend, effects) (.failed failure, supply'.spend, effects')
  | played {route route' : Option Route} (h : K.source supply.nextId supply'.nextId)
      (hroute : Option.Rel K.Routes route route') (attached : Bool) (start : Start) :
      Played K supply supply' effects effects'
        (.played supply.nextId attached start, supply.advance,
          effects.insert ⟨supply.nextId, route⟩)
        (.played supply'.nextId attached start, supply'.advance,
          effects'.insert ⟨supply'.nextId, route'⟩)

/-- What two attempts to put a new track into the slot do to their supplies and to the slot. -/
inductive Begun (K : Likeness) (supply supply' : Supply) (request : MusicRequest) :
    MusicOutcome × Supply × Music → MusicOutcome × Supply × Music → Prop
  | failed (failure : PlaybackFailure) : Begun K supply supply' request
      (.failed failure, supply.spend, none) (.failed failure, supply'.spend, none)
  | started {route route' : Option Route} (h : K.source supply.nextId supply'.nextId)
      (hroute : Option.Rel K.Routes route route') (attached : Bool) (start : Start) :
      Begun K supply supply' request
        (.started supply.nextId attached start, supply.advance,
          some ⟨supply.nextId, request.name, request.loops, route⟩)
        (.started supply'.nextId attached start, supply'.advance,
          some ⟨supply'.nextId, request.name, request.loops, route'⟩)

/-- What corresponds in the one likeness corresponds in the other. -/
structure Within (K K' : Likeness) : Prop where
  source : ∀ {id id'}, K.source id id' → K'.source id id'
  node : ∀ {node node'}, K.node node node' → K'.node node node'
  exact : K'.exact → K.exact

section Levels

variable {K : Likeness} {x x' y y' : Single}

theorem Level.refl (x : Single) : K.Level x x := fun _ => rfl

theorem Level.map (h : K.Level x x') (f : Single → Single) : K.Level (f x) (f x') :=
  fun hK => congrArg f (h hK)

theorem Level.map₂ (h : K.Level x x') (h' : K.Level y y') (f : Single → Single → Single) :
    K.Level (f x y) (f x' y') :=
  fun hK => congrArg₂ f (h hK) (h' hK)

end Levels

theorem Mixers.refl {K : Likeness} (m : Mixer) : K.Mixers m m :=
  ⟨rfl, fun _ => ⟨rfl, .refl _⟩⟩

theorem Requests.refl {K : Likeness} (request : EffectRequest) : K.Requests request request :=
  ⟨rfl, .refl _, .refl _, .refl _⟩

/-- What stands for itself corresponds to itself. -/
theorem Exchanges.refl {K : Likeness} (hnode : ∀ node, K.node node node) {x : Exchange}
    (hx : ∀ id, x.call.source? = some id → K.source id id) : K.Exchanges x x := by
  have hresults (r : Except GraphFailure Node) : Results K.node r r := by
    cases r with
    | ok node => exact .ok (hnode node)
    | error failure => exact .error failure
  obtain ⟨call, reply⟩ := x
  cases call with
  | pageAddress => exact .pageAddress reply
  | supportsGraph => exact .supportsGraph reply
  | createContext => exact .createContext reply
  | createBus gain => exact .createBus (.refl gain) reply
  | contextState => exact .contextState reply
  | resume => exact .resume
  | awaitResume => exact .awaitResume reply
  | supportsStereoPan => exact .supportsStereoPan reply
  | createSource id address mode => exact .createSource (hx id rfl) address mode reply
  | sourceAddress id => exact .sourceAddress (hx id rfl) reply
  | sourceVolume id => exact .sourceVolume (hx id rfl) (.refl reply)
  | isPaused id => exact .isPaused (hx id rfl) reply
  | setVolume id volume => exact .setVolume (hx id rfl) (.refl volume)
  | setRate id rate => exact .setRate (hx id rfl) (.refl rate)
  | setLooping id looping => exact .setLooping (hx id rfl) looping
  | setPreload id eager => exact .setPreload (hx id rfl) eager
  | play id => exact .play (hx id rfl) reply
  | pause id => exact .pause (hx id rfl) reply
  | seek id position => exact .seek (hx id rfl) position reply
  | wrapSource id => exact .wrapSource (hx id rfl) (hresults reply)
  | createPanner pan => exact .createPanner (.refl pan) (hresults reply)
  | connect start finish => exact .connect (hnode start) (hnode finish) reply
  | connectBus start bus => exact .connectBus (hnode start) bus reply
  | setBusGain bus gain => exact .setBusGain bus (.refl gain)

theorem Routes.refl {K : Likeness} (hnode : ∀ node, K.node node node) :
    ∀ r : Option Route, Option.Rel K.Routes r r
  | none => .none
  | some ⟨source, none⟩ => .some ⟨hnode source, .none⟩
  | some ⟨source, some panner⟩ => .some ⟨hnode source, .some (hnode panner)⟩

theorem Effects.refl {K : Likeness} (hnode : ∀ node, K.node node node) {e : ActiveEffect}
    (he : K.source e.source e.source) : K.Effects e e :=
  ⟨he, Routes.refl hnode e.route⟩

theorem Tracks.refl {K : Likeness} (hnode : ∀ node, K.node node node) {t : Track}
    (ht : K.source t.source t.source) : K.Tracks t t :=
  ⟨ht, rfl, rfl, Routes.refl hnode t.route⟩

section Within

variable {K K' : Likeness} (h : K.Within K')

include h

theorem Within.level {x y : Single} (hxy : K.Level x y) : K'.Level x y := fun hK => hxy (h.exact hK)

theorem Within.results {r r' : Except GraphFailure Node} (hr : Results K.node r r') :
    Results K'.node r r' := by
  cases hr with
  | ok hnode => exact .ok (h.node hnode)
  | error failure => exact .error failure

theorem Within.exchanges {x x' : Exchange} (hx : K.Exchanges x x') : K'.Exchanges x x' := by
  cases hx with
  | pageAddress page => exact .pageAddress page
  | supportsGraph yes => exact .supportsGraph yes
  | createContext made => exact .createContext made
  | createBus hgain reply => exact .createBus (h.level hgain) reply
  | contextState state => exact .contextState state
  | resume => exact .resume
  | awaitResume reply => exact .awaitResume reply
  | supportsStereoPan yes => exact .supportsStereoPan yes
  | createSource hid address mode reply => exact .createSource (h.source hid) address mode reply
  | sourceAddress hid address => exact .sourceAddress (h.source hid) address
  | sourceVolume hid hvolume => exact .sourceVolume (h.source hid) (h.level hvolume)
  | isPaused hid paused => exact .isPaused (h.source hid) paused
  | setVolume hid hvolume => exact .setVolume (h.source hid) (h.level hvolume)
  | setRate hid hrate => exact .setRate (h.source hid) (h.level hrate)
  | setLooping hid looping => exact .setLooping (h.source hid) looping
  | setPreload hid eager => exact .setPreload (h.source hid) eager
  | play hid reply => exact .play (h.source hid) reply
  | pause hid reply => exact .pause (h.source hid) reply
  | seek hid position reply => exact .seek (h.source hid) position reply
  | wrapSource hid hreply => exact .wrapSource (h.source hid) (h.results hreply)
  | createPanner hpan hreply => exact .createPanner (h.level hpan) (h.results hreply)
  | connect hstart hfinish reply => exact .connect (h.node hstart) (h.node hfinish) reply
  | connectBus hstart bus reply => exact .connectBus (h.node hstart) bus reply
  | setBusGain bus hgain => exact .setBusGain bus (h.level hgain)

theorem Within.notices {n n' : Notice} (hn : K.Notices n n') : K'.Notices n n' :=
  ⟨h.source hn.source, hn.event⟩

theorem Within.routes {r r' : Option Route} (hr : Option.Rel K.Routes r r') :
    Option.Rel K'.Routes r r' := by
  have hpanners {node node' : Option Node} (hnode : Option.Rel K.node node node') :
      Option.Rel K'.node node node' := by
    cases hnode with
    | none => exact .none
    | some hnode => exact .some (h.node hnode)
  cases hr with
  | none => exact .none
  | some hroute => exact .some ⟨h.node hroute.source, hpanners hroute.panner⟩

theorem Within.effects {e e' : ActiveEffect} (he : K.Effects e e') : K'.Effects e e' :=
  ⟨h.source he.source, h.routes he.route⟩

theorem Within.tracks {t t' : Track} (ht : K.Tracks t t') : K'.Tracks t t' :=
  ⟨h.source ht.source, ht.name, ht.looping, h.routes ht.route⟩

theorem Within.effectOutcomes {outcome outcome' : EffectOutcome}
    (ho : K.EffectOutcomes outcome outcome') : K'.EffectOutcomes outcome outcome' := by
  cases ho with
  | skipped => exact .skipped
  | failed failure => exact .failed failure
  | played hid attached start => exact .played (h.source hid) attached start

theorem Within.musicOutcomes {outcome outcome' : MusicOutcome} (ho : K.MusicOutcomes outcome outcome') :
    K'.MusicOutcomes outcome outcome' := by
  cases ho with
  | skipped => exact .skipped
  | failed failure => exact .failed failure
  | alreadyPlaying => exact .alreadyPlaying
  | resumed start => exact .resumed start
  | started hid attached start => exact .started (h.source hid) attached start

end Within

/-- The sources of corresponding calls correspond. -/
theorem Calls.source? {K : Likeness} {c c' : Call} (h : K.Calls c c') :
    Option.Rel K.source c.source? c'.source? := by
  obtain ⟨_, _, h⟩ := h
  cases h <;> first | exact .none | exact .some ‹_›

theorem Mixers.target? {K : Likeness} {m m' : Mixer} (h : K.Mixers m m') (kind : BusKind) :
    m'.target? kind = m.target? kind := by
  unfold Mixer.target?
  rw [h.hasContext, (h.buses kind).node]

theorem Routings.isAttached {K : Likeness} {r r' : Routing} (h : K.Routings r r') :
    r'.isAttached = r.isAttached := by
  cases h <;> rfl

theorem Routings.route? {K : Likeness} {r r' : Routing} (h : K.Routings r r') :
    Option.Rel K.Routes r.route? r'.route? := by
  cases h with
  | attached h => exact .some h
  | direct reason => exact .none

end Likeness

/-! ## 2. The calculus -/

section Calculus

variable {K : Likeness} {P Q S : H.State → H.State → Prop} {V : α → α' → Prop} {W : β → β' → Prop}

/-- From states that `P` relates, the host answers the two calls correspondingly, reports corresponding
events, and goes on to states that `Q` relates. -/
def Host.Matches (H : Host) (K : Likeness) (P Q : H.State → H.State → Prop) (c c' : Call) : Prop :=
  ∀ st st', P st st' →
    K.Exchanges ⟨c, (H.answer c st).1⟩ ⟨c', (H.answer c' st').1⟩ ∧
      List.Forall₂ K.Notices (H.answer c st).2.1 (H.answer c' st').2.1 ∧
      Q (H.answer c st).2.2 (H.answer c' st').2.2

/-- From sessions with related hosts, the two actions do what corresponds. -/
def Mates (K : Likeness) (P Q : H.State → H.State → Prop) (V : α → α' → Prop) (m : HostM H α)
    (m' : HostM H α') : Prop :=
  ∀ s s', P s.host s'.host → V (m s).1 (m' s').1 ∧
    ∃ L L', s.Unfolds L (m s).2 ∧ s'.Unfolds L' (m' s').2 ∧
      List.Forall₂ K.Exchanges (exchangesOf L) (exchangesOf L') ∧
      List.Forall₂ K.Notices (H.reported s.host ((exchangesOf L).map Exchange.call))
        (H.reported s'.host ((exchangesOf L').map Exchange.call)) ∧
      Q (m s).2.host (m' s').2.host

theorem mates_pure {a : α} {a' : α'} (h : V a a') :
    Mates K P P V (pure a : HostM H α) (pure a' : HostM H α') :=
  fun s s' hP => ⟨h, [], [], .refl s, .refl s', .nil, .nil, hP⟩

theorem mates_bind {m : HostM H α} {m' : HostM H α'} {f : α → HostM H β} {f' : α' → HostM H β'}
    (h : Mates K P Q V m m') (k : ∀ a a', V a a' → Mates K Q S W (f a) (f' a')) :
    Mates K P S W (m >>= f) (m' >>= f') := by
  intro s s' hP
  obtain ⟨hV, L, L', hL, hL', hX, hN, hQ⟩ := h s s' hP
  obtain ⟨hW, M, M', hM, hM', hY, hO, hS⟩ := k _ _ hV (m s).2 (m' s').2 hQ
  refine ⟨hW, L ++ M, L' ++ M', hL.trans hM, hL'.trans hM', ?_, ?_, hS⟩
  · rw [exchangesOf_append, exchangesOf_append]
    exact List.rel_append hX hY
  · rw [exchangesOf_append, exchangesOf_append, List.map_append, List.map_append,
      reported_append, reported_append, ← hL.host, ← hL'.host]
    exact List.rel_append hN hO

theorem mates_ask {c c' : Call} (h : H.Matches K P Q c c') :
    Mates K P Q (fun reply reply' => K.Exchanges ⟨c, reply⟩ ⟨c', reply'⟩)
      (ask c : HostM H c.Reply) (ask c') := by
  intro s s' hP
  obtain ⟨hX, hN, hQ⟩ := h s.host s'.host hP
  refine ⟨hX, _, _, .ask c (.refl _), .ask c' (.refl _), .cons hX .nil, ?_, ?_⟩
  · have hreported (c : Call) (st : H.State) : H.reported st [c] = (H.answer c st).2.1 :=
      List.append_nil _
    change List.Forall₂ K.Notices (H.reported s.host [c]) (H.reported s'.host [c'])
    rw [hreported, hreported]
    exact hN
  · rw [Session.ask_host, Session.ask_host]
    exact hQ

theorem mates_log (r r' : Record) :
    Mates K P P (fun _ _ => True) (log r : HostM H Unit) (log r' : HostM H Unit) :=
  fun _ _ hP => ⟨trivial, _, _, .log r (.refl _), .log r' (.refl _), .nil, .nil, hP⟩

theorem mates_map {m : HostM H α} {m' : HostM H α'} {f : α → β} {f' : α' → β'}
    (h : Mates K P Q (fun a a' => W (f a) (f' a')) m m') : Mates K P Q W (f <$> m) (f' <$> m') :=
  fun s s' hP => h s s' hP

theorem mates_mono {m : HostM H α} {m' : HostM H α'} {V' : α → α' → Prop}
    (h : Mates K P Q V m m') (hV : ∀ a a', V a a' → V' a a') : Mates K P Q V' m m' := by
  intro s s' hP
  obtain ⟨hVs, hrest⟩ := h s s' hP
  exact ⟨hV _ _ hVs, hrest⟩

/-- What corresponds in a narrow sense corresponds in a wide one. -/
theorem mates_within {K' : Likeness} (hK : K.Within K') {m : HostM H α} {m' : HostM H α'}
    (h : Mates K P Q V m m') : Mates K' P Q V m m' := by
  intro s s' hP
  obtain ⟨hV, L, L', hL, hL', hX, hN, hQ⟩ := h s s' hP
  exact ⟨hV, L, L', hL, hL', hX.imp fun _ _ => hK.exchanges, hN.imp fun _ _ => hK.notices, hQ⟩

theorem mates_before {m : HostM H α} {m' : HostM H α'} (h : Mates K Q S V m m')
    (hP : ∀ {st st'}, P st st' → Q st st') : Mates K P S V m m' :=
  fun s s' hs => h s s' (hP hs)

theorem mates_after {m : HostM H α} {m' : HostM H α'} (h : Mates K P Q V m m')
    (hQ : ∀ {st st'}, Q st st' → S st st') : Mates K P S V m m' := by
  intro s s' hP
  obtain ⟨hV, L, L', hL, hL', hX, hN, hend⟩ := h s s' hP
  exact ⟨hV, L, L', hL, hL', hX, hN, hQ hend⟩

/-- A step of a chain that ends with the first failure. -/
theorem mates_try {ε : Type} {m : HostM H (Except ε α)} {m' : HostM H (Except ε α')}
    {f : α → ExceptT ε (HostM H) β} {f' : α' → ExceptT ε (HostM H) β'}
    {V : Except ε α → Except ε α' → Prop} {W : Except ε β → Except ε β' → Prop}
    (h : Mates K P Q V m m')
    (k : ∀ a a', V a a' → Mates K Q S W (ExceptT.bindCont f a) (ExceptT.bindCont f' a')) :
    Mates K P S W (ExceptT.mk m >>= f).run (ExceptT.mk m' >>= f').run := by
  change Mates K P S W (m >>= ExceptT.bindCont f) (m' >>= ExceptT.bindCont f')
  exact mates_bind h k

/-- A step of a chain that cannot fail. -/
theorem mates_lift {ε : Type} {m : HostM H α} {m' : HostM H α'}
    {f : α → ExceptT ε (HostM H) β} {f' : α' → ExceptT ε (HostM H) β'}
    {W : Except ε β → Except ε β' → Prop} (h : Mates K P Q V m m')
    (k : ∀ a a', V a a' → Mates K Q S W (f a).run (f' a').run) :
    Mates K P S W ((liftM m : ExceptT ε (HostM H) α) >>= f).run
      ((liftM m' : ExceptT ε (HostM H) α') >>= f').run := by
  change Mates K P S W (m >>= fun a => (f a).run) (m' >>= fun a => (f' a).run)
  exact mates_bind h k

end Calculus

/-! ## 3. The functions of the engine -/

/-- The host follows a likeness.  To a call that names a source it answers correspondingly in any
states that are related by `R`, and goes on to states that are related by `T`; to a call that names
none but only goes with the source before it, it does so if a source has been named. -/
structure Host.Follows (H : Host) (K : Likeness) (R T : H.State → H.State → Prop) : Prop where
  named : ∀ {c c'}, K.Calls c c' → c.source?.isSome = true → H.Matches K R T c c'
  wired : ∀ {c c'}, K.Calls c c' → c.isWiring = true → H.Matches K T T c c'
  weaken : ∀ {st st'}, T st st' → R st st'

/-- A request whose name stands for nothing is skipped. -/
theorem Effects.play_skipped {effects : Effects} {supply : Supply} {m : Mixer} {page : Option Url}
    {base : String} {request : EffectRequest} (h : Address.resolve request.name base = none) :
    (effects.play supply m page base request : HostM H _) = pure (.skipped, supply, effects) := by
  unfold Effects.play
  rw [h]

section Functions

open Likeness

variable {K : Likeness} {R T : H.State → H.State → Prop} {id id' : SourceId}

section Sources

variable (hK : H.Follows K R T)

include hK

/-- A call that names a source. -/
theorem Host.Follows.asks {c c' : Call} (h : K.Calls c c') (hc : c.source?.isSome = true) :
    Mates K R T (fun reply reply' => K.Exchanges ⟨c, reply⟩ ⟨c', reply'⟩)
      (ask c : HostM H c.Reply) (ask c') :=
  mates_ask (hK.named h hc)

/-- A call that names a source, after another one. -/
theorem Host.Follows.asksAgain {c c' : Call} (h : K.Calls c c') (hc : c.source?.isSome = true) :
    Mates K T T (fun reply reply' => K.Exchanges ⟨c, reply⟩ ⟨c', reply'⟩)
      (ask c : HostM H c.Reply) (ask c') :=
  mates_before (hK.asks h hc) hK.weaken

/-- A call in the graph. -/
theorem Host.Follows.wires {c c' : Call} (h : K.Calls c c') (hc : c.isWiring = true) :
    Mates K T T (fun reply reply' => K.Exchanges ⟨c, reply⟩ ⟨c', reply'⟩)
      (ask c : HostM H c.Reply) (ask c') :=
  mates_ask (hK.wired h hc)

theorem start_mates (h : K.source id id') :
    Mates K T T Eq (id.start : HostM H Start) (id'.start : HostM H Start) := by
  unfold SourceId.start
  refine mates_bind (hK.asksAgain ⟨_, _, .play h (.ok ())⟩ rfl) fun reply _ hreply => ?_
  cases hreply
  cases reply with
  | ok _ => exact mates_pure rfl
  | error failure =>
    refine mates_bind (hK.asksAgain ⟨_, _, .sourceAddress h ""⟩ rfl) fun _ _ _ => ?_
    exact mates_bind (mates_log _ _) fun _ _ _ => mates_pure rfl

theorem halt_mates (h : K.source id id') :
    Mates K R T (fun _ _ => True) (id.halt : HostM H Unit) (id'.halt : HostM H Unit) := by
  have hrewind : Mates K R T Eq (id.rewind : HostM H _) (id'.rewind : HostM H _) := by
    unfold SourceId.rewind
    refine mates_bind (hK.asks ⟨_, _, .pause h (.ok ())⟩ rfl) fun reply _ hreply => ?_
    cases hreply
    cases reply with
    | error failure => exact mates_pure rfl
    | ok _ =>
      refine mates_mono (hK.asksAgain ⟨_, _, .seek h .zero (.ok ())⟩ rfl) fun _ _ hreply => ?_
      cases hreply
      rfl
  unfold SourceId.halt
  refine mates_bind hrewind fun result _ hresult => ?_
  subst hresult
  cases result with
  | ok _ => exact mates_pure trivial
  | error failure =>
    refine mates_bind (hK.asksAgain ⟨_, _, .sourceAddress h ""⟩ rfl) fun _ _ _ => ?_
    exact mates_log _ _

theorem chain_mates (h : K.source id id') (bus : BusNode) {pan pan' : Single}
    (hpan : K.Level pan pan') :
    Mates K T T (Results K.Routes) (Mixer.chain id bus pan : HostM H _)
      (Mixer.chain id' bus pan') := by
  unfold Mixer.chain
  refine mates_try (hK.asksAgain ⟨_, _, .wrapSource h (.error .alreadyAttached)⟩ rfl)
    fun _ _ hreply => ?_
  cases hreply with | wrapSource _ hmade =>
  cases hmade with
  | error failure => exact mates_pure (.error failure)
  | ok hnode =>
  refine mates_lift (hK.wires ⟨_, _, .supportsStereoPan true⟩ rfl) fun stereo _ hreply => ?_
  cases hreply
  cases stereo with
  | false =>
    refine mates_try (hK.wires ⟨_, _, .connectBus hnode bus (.ok ())⟩ rfl) fun reply _ hreply => ?_
    cases hreply
    cases reply with
    | error failure => exact mates_pure (.error failure)
    | ok _ => exact mates_pure (.ok ⟨hnode, .none⟩)
  | true =>
    refine mates_try (hK.wires ⟨_, _, .createPanner (hpan.map Level.pan)
      (.error .alreadyAttached)⟩ rfl) fun _ _ hreply => ?_
    cases hreply with | createPanner _ hmade =>
    cases hmade with
    | error failure => exact mates_pure (.error failure)
    | ok hpanner =>
    refine mates_try (hK.wires ⟨_, _, .connect hnode hpanner (.ok ())⟩ rfl) fun reply _ hreply => ?_
    cases hreply
    cases reply with
    | error failure => exact mates_pure (.error failure)
    | ok _ =>
    refine mates_try (hK.wires ⟨_, _, .connectBus hpanner bus (.ok ())⟩ rfl) fun reply _ hreply => ?_
    cases hreply
    cases reply with
    | error failure => exact mates_pure (.error failure)
    | ok _ => exact mates_pure (.ok ⟨hnode, .some hpanner⟩)

theorem attach_mates {m m' : Mixer} (hm : K.Mixers m m') (page : Option Url) (h : K.source id id')
    (kind : BusKind) {pan pan' : Single} (hpan : K.Level pan pan') :
    Mates K T T K.Routings (m.attach page id kind pan : HostM H Routing)
      (m'.attach page id' kind pan') := by
  unfold Mixer.attach
  rw [hm.target? kind]
  cases m.target? kind with
  | none => exact mates_pure (.direct .noGraph)
  | some bus =>
    refine mates_bind (hK.asksAgain ⟨_, _, .sourceAddress h ""⟩ rfl) fun address _ hreply => ?_
    cases hreply
    split
    · exact mates_pure (.direct .crossOrigin)
    · refine mates_bind (chain_mates hK h bus hpan) fun _ _ hresult => ?_
      cases hresult with
      | ok hroute => exact mates_pure (.attached hroute)
      | error failure => exact mates_pure (.direct (.graph failure))

theorem scale_mates {m m' : Mixer} (hm : K.Mixers m m') (h : K.source id id') (kind : BusKind) :
    Mates K T T (fun _ _ => True) (m.scale id kind : HostM H Unit) (m'.scale id' kind) := by
  obtain ⟨hnode, hgain⟩ := hm.buses kind
  unfold Mixer.scale Bus.isLive
  dsimp only
  rw [hnode]
  split
  · refine mates_bind (hK.asksAgain ⟨_, _, .sourceVolume h (.refl .zero)⟩ rfl)
      fun volume volume' hreply => ?_
    cases hreply with | sourceVolume _ hvolume =>
    have hscaled := hvolume.map₂ hgain Binary.mul
    exact mates_mono (hK.asksAgain ⟨_, _, .setVolume h hscaled⟩ rfl) fun _ _ _ => trivial
  · exact mates_pure trivial

theorem route_mates {m m' : Mixer} (hm : K.Mixers m m') (page : Option Url) (h : K.source id id')
    (kind : BusKind) {pan pan' : Single} (hpan : K.Level pan pan') :
    Mates K T T K.Routings (m.route page id kind pan : HostM H Routing)
      (m'.route page id' kind pan') := by
  unfold Mixer.route
  refine mates_bind (attach_mates hK hm page h kind hpan) fun _ _ hrouting => ?_
  cases hrouting with
  | attached hroute => exact mates_pure (.attached hroute)
  | direct reason =>
    refine mates_bind (scale_mates hK hm h kind) fun _ _ _ => ?_
    refine mates_bind (hK.asksAgain ⟨_, _, .sourceAddress h ""⟩ rfl) fun _ _ _ => ?_
    exact mates_bind (mates_log _ _) fun _ _ _ => mates_pure (.direct reason)

/-- **Building a source**: both attempts come to the same. -/
theorem create_mates {supply supply' : Supply} (h : K.source supply.nextId supply'.nextId)
    (page : Option Url) (address : String) :
    Mates K R T (fun made made' => (made = (.ok supply.nextId, supply.advance) ∧
        made' = (.ok supply'.nextId, supply'.advance)) ∨
        ∃ failure, made = (.error failure, supply.spend) ∧ made' = (.error failure, supply'.spend))
      (supply.create page address : HostM H _) (supply'.create page address) := by
  unfold Supply.create
  refine mates_bind (hK.asks ⟨_, _, .createSource h address _ (.ok ())⟩ rfl) fun reply _ hreply => ?_
  cases hreply
  cases reply with
  | error failure => exact mates_pure (.inr ⟨failure, rfl, rfl⟩)
  | ok _ =>
    refine mates_bind (hK.asksAgain ⟨_, _, .setPreload h true⟩ rfl) fun _ _ _ => ?_
    exact mates_bind (mates_log _ _) fun _ _ _ => mates_pure (.inl ⟨rfl, rfl⟩)

/-- **Playing an effect**: the same comes of it, whatever has been made before. -/
theorem playEffect_mates {supply supply' : Supply} (h : K.source supply.nextId supply'.nextId)
    (effects effects' : SoundEngine.Effects) {m m' : Mixer} (hm : K.Mixers m m')
    (page : Option Url) {base address : String} {request request' : EffectRequest}
    (hr : K.Requests request request')
    (haddress : Address.resolve request.name base = some address) :
    Mates K R R (K.Played supply supply' effects effects')
      (effects.play supply m page base request : HostM H _)
      (effects'.play supply' m' page base request') := by
  unfold SoundEngine.Effects.play
  rw [hr.name, haddress]
  refine mates_after ?_ hK.weaken
  refine mates_bind (create_mates hK h page address) fun _ _ hmade => ?_
  rcases hmade with ⟨rfl, rfl⟩ | ⟨failure, rfl, rfl⟩
  · refine mates_bind (hK.asksAgain ⟨_, _, .setVolume h hr.volume⟩ rfl) fun _ _ _ => ?_
    refine mates_bind (hK.asksAgain ⟨_, _, .setRate h hr.rate⟩ rfl) fun _ _ _ => ?_
    refine mates_bind (route_mates hK hm page h .effects hr.pan) fun _ _ hrouting => ?_
    refine mates_bind (start_mates hK h) fun start _ hstart => ?_
    subst hstart
    refine mates_bind (mates_log _ _) fun _ _ _ => ?_
    rw [hrouting.isAttached]
    exact mates_pure (.played h hrouting.route? _ start)
  · exact mates_bind (mates_log _ _) fun _ _ _ => mates_pure (.failed failure)

theorem haltEach_mates {effects effects' : SoundEngine.Effects}
    (h : List.Forall₂ K.Effects effects effects') :
    Mates K R R (fun _ _ => True) (effects.haltEach : HostM H Unit) effects'.haltEach := by
  induction h with
  | nil => exact mates_pure trivial
  | cons h _ ih => exact mates_bind (mates_after (halt_mates hK h.source) hK.weaken) fun _ _ _ => ih

theorem stopEffects_mates {effects effects' : SoundEngine.Effects} {order order' : VisitOrder}
    (h : List.Forall₂ K.Effects (order.arrange effects) (order'.arrange effects')) :
    Mates K R R (fun left left' => left = [] ∧ left' = [])
      (effects.stopAll order : HostM H SoundEngine.Effects) (effects'.stopAll order') :=
  mates_bind (haltEach_mates hK h) fun _ _ _ => mates_pure ⟨rfl, rfl⟩

theorem stopMusic_mates {music music' : Music} (h : Option.Rel K.Tracks music music') :
    Mates K R R (fun left left' => left = none ∧ left' = none) (music.stop : HostM H Music)
      music'.stop := by
  cases h with
  | none => exact mates_pure ⟨rfl, rfl⟩
  | some h =>
    refine mates_bind (mates_after (halt_mates hK h.source) hK.weaken) fun _ _ _ => ?_
    exact mates_bind (mates_log _ _) fun _ _ _ => mates_pure ⟨rfl, rfl⟩

theorem resume_mates {t t' : Track} (h : K.source t.source t'.source) :
    Mates K R R K.MusicOutcomes (t.resume : HostM H MusicOutcome) t'.resume := by
  unfold Track.resume
  refine mates_after ?_ hK.weaken
  refine mates_bind (hK.asks ⟨_, _, .isPaused h true⟩ rfl) fun paused _ hreply => ?_
  cases hreply
  cases paused with
  | false => exact mates_pure .alreadyPlaying
  | true =>
    refine mates_bind (start_mates hK h) fun start _ hstart => ?_
    subst hstart
    exact mates_pure (.resumed start)

/-- **Putting a new track into the slot**: the same comes of it, whatever has been made before. -/
theorem begin_mates {supply supply' : Supply} (h : K.source supply.nextId supply'.nextId)
    {m m' : Mixer} (hm : K.Mixers m m') (page : Option Url) (address : String)
    (request : MusicRequest) :
    Mates K R R (K.Begun supply supply' request)
      (Music.begin supply m page address request : HostM H _)
      (Music.begin supply' m' page address request) := by
  unfold Music.begin
  refine mates_after ?_ hK.weaken
  refine mates_bind (create_mates hK h page address) fun _ _ hmade => ?_
  rcases hmade with ⟨rfl, rfl⟩ | ⟨failure, rfl, rfl⟩
  · refine mates_bind (hK.asksAgain ⟨_, _, .setLooping h request.loops⟩ rfl) fun _ _ _ => ?_
    refine mates_bind (hK.asksAgain ⟨_, _, .setVolume h (.refl (Level.whole 1))⟩ rfl)
      fun _ _ _ => ?_
    refine mates_bind (route_mates hK hm page h .music (.refl .zero)) fun _ _ hrouting => ?_
    refine mates_bind (start_mates hK h) fun start _ hstart => ?_
    subst hstart
    refine mates_bind (mates_log _ _) fun _ _ _ => ?_
    rw [hrouting.isAttached]
    exact mates_pure (.started h hrouting.route? _ start)
  · exact mates_bind (mates_log _ _) fun _ _ _ => mates_pure (.failed failure)

end Sources

end Functions

/-! ## 4. Tracked effects -/

section Tracked

open Conduct Likeness

variable {K : Likeness} (hK : Relator.BiUnique K.source) {effects effects' : SoundEngine.Effects}

include hK

theorem over_mates {notices notices' : List Notice} (h : List.Forall₂ K.Notices notices notices')
    {id id' : SourceId} (hid : K.source id id') : Over notices id ↔ Over notices' id' := by
  induction h with
  | nil => exact iff_of_false (over_nil id) (over_nil id')
  | @cons n n' _ _ hn _ ih =>
    have hsource : n.source = id ↔ n'.source = id' := by
      constructor
      · rintro rfl
        exact hK.2 hn.source hid
      · rintro rfl
        exact hK.1 hn.source hid
    rw [over_cons, over_cons, ih, hsource, hn.event]

/-- **Corresponding events end corresponding effects.** -/
theorem heeding_mates (h : List.Forall₂ K.Effects effects effects') {notices notices' : List Notice}
    (hn : List.Forall₂ K.Notices notices notices') :
    List.Forall₂ K.Effects (heeding effects notices) (heeding effects' notices') := by
  rw [heeding_eq_filter, heeding_eq_filter]
  refine List.rel_filter (fun e e' he => ?_) h
  dsimp only
  rw [decide_eq_true_iff, decide_eq_true_iff, over_mates hK hn he.source]

theorem tracks_mates (h : List.Forall₂ K.Effects effects effects') {id id' : SourceId}
    (hid : K.source id id') : effects'.tracks id' = effects.tracks id := by
  rw [Bool.eq_iff_iff, Effects.tracks_iff, Effects.tracks_iff]
  induction h with
  | nil => simp
  | @cons e e' _ _ he _ ih =>
    have hsource : id' = e'.source ↔ id = e.source := by
      constructor
      · rintro rfl
        exact hK.1 hid he.source
      · rintro rfl
        exact hK.2 hid he.source
    rw [List.map_cons, List.map_cons, List.mem_cons, List.mem_cons, ih, hsource]

/-- Tracking one more effect. -/
theorem insert_mates (h : List.Forall₂ K.Effects effects effects') {effect effect' : ActiveEffect}
    (he : K.Effects effect effect') :
    List.Forall₂ K.Effects (effects.insert effect) (effects'.insert effect') := by
  have hrenew {a a' : ActiveEffect} (ha : K.Effects a a') :
      Option.Rel K.Routes (effect.route.or a.route) (effect'.route.or a'.route) := by
    have hroute := he.route
    generalize effect.route = route, effect'.route = route' at hroute ⊢
    cases hroute with
    | some hr => exact .some hr
    | none => exact ha.route
  unfold SoundEngine.Effects.insert
  rw [tracks_mates hK h he.source]
  split
  · refine List.rel_map (fun a a' ha => ?_) h
    have hsource : a'.source = effect'.source ↔ a.source = effect.source := by
      constructor
      · intro hsame
        exact hK.1 ha.source (hsame ▸ he.source)
      · intro hsame
        exact hK.2 ha.source (hsame ▸ he.source)
    by_cases hsame : a.source = effect.source
    · rw [if_pos hsame, if_pos (hsource.mpr hsame)]
      exact ⟨ha.source, hrenew ha⟩
    · rw [if_neg hsame, if_neg (hsame ∘ hsource.mp)]
      exact ha
  · exact List.rel_append h (.cons he .nil)

end Tracked

/-! ## 5. Passages -/

section Passages

open Conduct

/-- **An operation in both runs.**  If what the two do after the drain corresponds, so do the passages;
and the events that wait after each are those that waited and were not drained, followed by events that
correspond. -/
theorem Situation.mates {K : Likeness} {P Q : H.State → H.State → Prop}
    {V : Answer × Engine → Answer × Engine → Prop} {a b : Situation H} {op op' : Operation}
    {waiting waiting' : List Notice} (ha : a.session.mailbox = .listening waiting)
    (hb : b.session.mailbox = .listening waiting')
    (hacts : Mates K P Q V
      ((heeded a.engine (Passage.mk a (.perform op)).consumed).act waiting.length op : HostM H _)
      ((heeded b.engine (Passage.mk b (.perform op')).consumed).act waiting'.length op'))
    (hhost : P a.session.host b.session.host) :
    let p : Passage H := ⟨a, .perform op⟩
    let q : Passage H := ⟨b, .perform op'⟩
    (∃ answer answer', p.answer = some answer ∧ q.answer = some answer' ∧
      V (answer, p.finish.engine) (answer', q.finish.engine)) ∧
    List.Forall₂ K.Exchanges p.exchanges q.exchanges ∧
    Q p.finish.session.host q.finish.session.host ∧
    ∃ notices notices', List.Forall₂ K.Notices notices notices' ∧
      p.finish.session.mailbox = .listening ((if drains op then [] else waiting) ++ notices) ∧
      q.finish.session.mailbox = .listening ((if drains op' then [] else waiting') ++ notices') := by
  intro p q
  obtain ⟨t, ht⟩ := a.setsOut ha op
  obtain ⟨t', ht'⟩ := b.setsOut hb op'
  obtain ⟨hV, L, L', hL, hL', hexchanges, hnotices, hend⟩ :=
    hacts t t' (by rw [ht.host, ht'.host]; exact hhost)
  rw [← ht.run] at hV hL hend
  rw [← ht'.run] at hV hL' hend
  refine ⟨⟨_, _, rfl, rfl, hV⟩, ?_, hend, _, _, hnotices, hL.mailbox ht.mailbox,
    hL'.mailbox ht'.mailbox⟩
  rw [ht.exchanges hL, ht'.exchanges hL']
  exact hexchanges

end Passages

end SoundEngine
