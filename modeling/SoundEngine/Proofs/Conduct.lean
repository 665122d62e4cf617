import SoundEngine.Proofs.Chronicle

/-!
# The conduct of the engine

What each function of the engine does, for every host, as a relation between its result and the
entries it leaves: ONE CASE FOR EACH WAY THROUGH THE FUNCTION, with the entries written out.  These
relations are all that later modules use; none of them unfolds a function of the engine.

The relations follow the functions.  Starting and halting a source come first (§1), then the chain
of steps in the graph and the routing built on it (§2), then building a source (§3), effects (§4)
and music (§5).  An operation of the engine as a whole is `Acts` (§6): after it has drained its
events, an engine performs an operation by one of its cases.

Each relation has one theorem, `..._conduct`, which says that the function behaves by it.
-/

namespace SoundEngine

variable {H : Host}

namespace Conduct

/-! ## 1. Starting and halting -/

/-- Asking a source to play.  If it refuses, that is recorded with its address, and is no failure of the
operation. -/
inductive Starting (id : SourceId) : Start → List Entry → Prop
  | accepted : Starting id .started [.exchange (.play id) (.ok ())]
  | refused (failure : PlaybackFailure) (address : String) :
      Starting id (.notStarted failure)
        [.exchange (.play id) (.error failure), .exchange (.sourceAddress id) address,
          .record (.notStarted address failure)]

/-- Halting a source: it is sent back to its beginning if and only if it could be paused.  Whatever fails
is recorded with the address of the source, which is asked for only then. -/
inductive Halting (id : SourceId) : List Entry → Prop
  | rewound : Halting id [.exchange (.pause id) (.ok ()), .exchange (.seek id .zero) (.ok ())]
  | notPaused (failure : PlaybackFailure) (address : String) :
      Halting id
        [.exchange (.pause id) (.error failure), .exchange (.sourceAddress id) address,
          .record (.notHalted address failure)]
  | notRewound (failure : PlaybackFailure) (address : String) :
      Halting id
        [.exchange (.pause id) (.ok ()), .exchange (.seek id .zero) (.error failure),
          .exchange (.sourceAddress id) address, .record (.notHalted address failure)]

theorem start_conduct (id : SourceId) : Leaves (H := H) id.start (Starting id) := by
  unfold SourceId.start
  refine leaves_ask fun reply => ?_
  cases reply with
  | ok _ => exact leaves_pure .accepted
  | error failure =>
    refine leaves_ask fun address => leaves_log ?_
    exact leaves_pure (.refused failure address)

theorem halt_conduct (id : SourceId) : Leaves (H := H) id.halt fun _ => Halting id := by
  unfold SourceId.halt SourceId.rewind
  rw [bind_assoc]
  refine leaves_ask fun paused => ?_
  cases paused with
  | error failure =>
    rw [pure_bind]
    refine leaves_ask fun address => leaves_log_last ?_
    exact .notPaused failure address
  | ok _ =>
    refine leaves_ask fun sought => ?_
    cases sought with
    | ok _ => exact leaves_pure .rewound
    | error failure =>
      refine leaves_ask fun address => leaves_log_last ?_
      exact .notRewound failure address

/-! ## 2. Routing -/

/-- The chain of steps that connects a source with a bus.  The first step that fails ends it. -/
inductive Chaining (id : SourceId) (bus : BusNode) (pan : Single) :
    Except GraphFailure Route → List Entry → Prop
  | notWrapped (failure : GraphFailure) :
      Chaining id bus pan (.error failure) [.exchange (.wrapSource id) (.error failure)]
  | plain (node : Node) (joined : Except GraphFailure Unit) :
      Chaining id bus pan (joined.map fun _ => ⟨node, none⟩)
        [.exchange (.wrapSource id) (.ok node), .exchange .supportsStereoPan false,
          .exchange (.connectBus node bus) joined]
  | noPanner (node : Node) (failure : GraphFailure) :
      Chaining id bus pan (.error failure)
        [.exchange (.wrapSource id) (.ok node), .exchange .supportsStereoPan true,
          .exchange (.createPanner (Level.pan pan)) (.error failure)]
  | notConnected (node panner : Node) (failure : GraphFailure) :
      Chaining id bus pan (.error failure)
        [.exchange (.wrapSource id) (.ok node), .exchange .supportsStereoPan true,
          .exchange (.createPanner (Level.pan pan)) (.ok panner),
          .exchange (.connect node panner) (.error failure)]
  | panned (node panner : Node) (joined : Except GraphFailure Unit) :
      Chaining id bus pan (joined.map fun _ => ⟨node, some panner⟩)
        [.exchange (.wrapSource id) (.ok node), .exchange .supportsStereoPan true,
          .exchange (.createPanner (Level.pan pan)) (.ok panner),
          .exchange (.connect node panner) (.ok ()), .exchange (.connectBus panner bus) joined]

/-- Trying to attach a source to a bus. -/
inductive Attaching (m : Mixer) (page : Option Url) (id : SourceId) (kind : BusKind)
    (pan : Single) : Routing → List Entry → Prop
  | noBus (h : m.target? kind = none) :
      Attaching m page id kind pan (.direct .noGraph) []
  | crossOrigin {bus : BusNode} {address : String} (h : m.target? kind = some bus)
      (hc : Url.isCrossOrigin page address = true) :
      Attaching m page id kind pan (.direct .crossOrigin) [.exchange (.sourceAddress id) address]
  | attached {bus : BusNode} {address : String} {route : Route} {L : List Entry}
      (h : m.target? kind = some bus) (hc : Url.isCrossOrigin page address = false)
      (hL : Chaining id bus pan (.ok route) L) :
      Attaching m page id kind pan (.attached route) (.exchange (.sourceAddress id) address :: L)
  | failed {bus : BusNode} {address : String} {failure : GraphFailure} {L : List Entry}
      (h : m.target? kind = some bus) (hc : Url.isCrossOrigin page address = false)
      (hL : Chaining id bus pan (.error failure) L) :
      Attaching m page id kind pan (.direct (.graph failure))
        (.exchange (.sourceAddress id) address :: L)

/-- Scaling a source by the gain of its bus. -/
inductive Scaling (m : Mixer) (id : SourceId) (kind : BusKind) : List Entry → Prop
  | live (h : (m.buses.get kind).isLive = true) (volume : Single) :
      Scaling m id kind
        [.exchange (.sourceVolume id) volume,
          .exchange (.setVolume id (volume.mul (m.buses.get kind).gain)) ()]
  | inert (h : (m.buses.get kind).isLive = false) : Scaling m id kind []

/-- Routing a source: attached to its bus, or scaled and left on its own. -/
inductive Routes (m : Mixer) (page : Option Url) (id : SourceId) (kind : BusKind)
    (pan : Single) : Routing → List Entry → Prop
  | attached {route : Route} {L : List Entry}
      (hL : Attaching m page id kind pan (.attached route) L) :
      Routes m page id kind pan (.attached route) L
  | direct {reason : DirectReason} {L K : List Entry}
      (hL : Attaching m page id kind pan (.direct reason) L) (hK : Scaling m id kind K)
      (address : String) :
      Routes m page id kind pan (.direct reason)
        (L ++ (K ++ [.exchange (.sourceAddress id) address,
          .record (.unrouted kind address reason)]))

theorem chain_conduct (id : SourceId) (bus : BusNode) (pan : Single) :
    Leaves (H := H) (Mixer.chain id bus pan) (Chaining id bus pan) := by
  unfold Mixer.chain
  refine leaves_try (leaves_ask_last fun wrapped => ?_)
  cases wrapped with
  | error failure => exact .notWrapped failure
  | ok node =>
    refine leaves_lift (leaves_ask_last fun stereo => ?_)
    cases stereo with
    | false =>
      refine leaves_try (leaves_ask_last fun joined => ?_)
      cases joined with
      | error failure => exact .plain node (.error failure)
      | ok _ => exact leaves_pure (.plain node (.ok ()))
    | true =>
      refine leaves_try (leaves_ask_last fun made => ?_)
      cases made with
      | error failure => exact .noPanner node failure
      | ok panner =>
        refine leaves_try (leaves_ask_last fun connected => ?_)
        cases connected with
        | error failure => exact .notConnected node panner failure
        | ok _ =>
          refine leaves_try (leaves_ask_last fun joined => ?_)
          cases joined with
          | error failure => exact .panned node panner (.error failure)
          | ok _ => exact leaves_pure (.panned node panner (.ok ()))

theorem attach_conduct (m : Mixer) (page : Option Url) (id : SourceId) (kind : BusKind)
    (pan : Single) : Leaves (H := H) (m.attach page id kind pan) (Attaching m page id kind pan) := by
  unfold Mixer.attach
  cases hm : m.target? kind with
  | none => exact leaves_pure (.noBus hm)
  | some bus =>
    refine leaves_ask fun address => ?_
    cases hc : Url.isCrossOrigin page address with
    | true => exact leaves_pure (.crossOrigin hm hc)
    | false =>
      refine leaves_bind (chain_conduct id bus pan) fun result L hL => ?_
      cases result with
      | ok route => exact leaves_pure (by simpa using .attached hm hc hL)
      | error failure => exact leaves_pure (by simpa using .failed hm hc hL)

theorem scale_conduct (m : Mixer) (id : SourceId) (kind : BusKind) :
    Leaves (H := H) (m.scale id kind) fun _ => Scaling m id kind := by
  unfold Mixer.scale
  by_cases hb : (m.buses.get kind).isLive = true
  · simp only [if_pos hb]
    exact leaves_ask fun volume => leaves_ask_last fun _ => .live hb volume
  · simp only [if_neg hb]
    exact leaves_pure (.inert (by simpa using hb))

theorem route_conduct (m : Mixer) (page : Option Url) (id : SourceId) (kind : BusKind)
    (pan : Single) : Leaves (H := H) (m.route page id kind pan) (Routes m page id kind pan) := by
  unfold Mixer.route
  refine leaves_bind (attach_conduct m page id kind pan) fun routing L hL => ?_
  cases routing with
  | attached route => exact leaves_pure (by simpa using .attached hL)
  | direct reason =>
    refine leaves_bind (scale_conduct m id kind) fun _ K hK => ?_
    refine leaves_ask fun address => leaves_log (leaves_pure ?_)
    exact .direct hL hK address

/-! ## 3. Building a source -/

/-- Building a source: the number is used up in any case. -/
inductive Creating (supply : Supply) (page : Option Url) (address : String) :
    Except PlaybackFailure SourceId × Supply → List Entry → Prop
  | refused (failure : PlaybackFailure) :
      Creating supply page address (.error failure, supply.spend)
        [.exchange (.createSource supply.nextId address (.of page address)) (.error failure)]
  | built :
      Creating supply page address (.ok supply.nextId, supply.advance)
        [.exchange (.createSource supply.nextId address (.of page address)) (.ok ()),
          .exchange (.setPreload supply.nextId true) (),
          .record (.created supply.nextId address (.of page address))]

theorem create_conduct (supply : Supply) (page : Option Url) (address : String) :
    Leaves (H := H) (supply.create page address) (Creating supply page address) := by
  unfold Supply.create
  refine leaves_ask fun reply => ?_
  cases reply with
  | error failure => exact leaves_pure (.refused failure)
  | ok _ => exact leaves_ask fun _ => leaves_log (leaves_pure .built)

/-! ## 4. Effects -/

/-- Playing an effect. -/
inductive PlayingEffect (effects : Effects) (supply : Supply) (m : Mixer) (page : Option Url)
    (base : String) (request : EffectRequest) :
    EffectOutcome × Supply × Effects → List Entry → Prop
  | skipped (h : Address.resolve request.name base = none) :
      PlayingEffect effects supply m page base request (.skipped, supply, effects) []
  | failed {address : String} (h : Address.resolve request.name base = some address)
      {failure : PlaybackFailure} {supply' : Supply} {L : List Entry}
      (hL : Creating supply page address (.error failure, supply') L) :
      PlayingEffect effects supply m page base request (.failed failure, supply', effects)
        (L ++ [.record (.effectNotCreated address failure)])
  | played {address : String} (h : Address.resolve request.name base = some address)
      {id : SourceId} {supply' : Supply} {routing : Routing} {start : Start}
      {L R S : List Entry} (hL : Creating supply page address (.ok id, supply') L)
      (hR : Routes m page id .effects request.panFactor routing R) (hS : Starting id start S) :
      PlayingEffect effects supply m page base request
        (.played id routing.isAttached start, supply', effects.insert ⟨id, routing.route?⟩)
        (L ++ (.exchange (.setVolume id request.volumeFactor) () ::
          .exchange (.setRate id request.rateFactor) () ::
            (R ++ (S ++ [.record (.effectStarted id address routing.isAttached start)]))))

theorem playEffect_conduct (effects : Effects) (supply : Supply) (m : Mixer)
    (page : Option Url) (base : String) (request : EffectRequest) :
    Leaves (H := H) (effects.play supply m page base request)
      (PlayingEffect effects supply m page base request) := by
  unfold Effects.play
  cases hr : Address.resolve request.name base with
  | none => exact leaves_pure (.skipped hr)
  | some address =>
    refine leaves_bind (create_conduct supply page address) fun result L hL => ?_
    obtain ⟨made, supply'⟩ := result
    cases made with
    | error failure => exact leaves_log (leaves_pure (.failed hr hL))
    | ok id =>
      refine leaves_ask fun _ => leaves_ask fun _ => ?_
      refine leaves_bind (route_conduct m page id .effects request.panFactor) fun routing R hR => ?_
      refine leaves_bind (start_conduct id) fun start S hS => ?_
      exact leaves_log (leaves_pure (.played hr hL hR hS))

/-- Halting effects one after the other. -/
inductive HaltingEach : Effects → List Entry → Prop
  | nil : HaltingEach [] []
  | cons {e : ActiveEffect} {es : Effects} {L K : List Entry} (hL : Halting e.source L)
      (hK : HaltingEach es K) : HaltingEach (e :: es) (L ++ K)

theorem haltEach_conduct : ∀ effects : Effects,
    Leaves (H := H) (Effects.haltEach effects) fun _ => HaltingEach effects
  | [] => leaves_pure .nil
  | e :: es => by
    refine leaves_bind (halt_conduct e.source) fun _ L hL => ?_
    exact leaves_mono (haltEach_conduct es) fun _ K hK => .cons hL hK

theorem stopEffects_conduct (effects : Effects) (order : VisitOrder) :
    Leaves (H := H) (effects.stopAll order) fun effects' L =>
      effects' = [] ∧ HaltingEach (order.arrange effects) L := by
  refine leaves_bind (haltEach_conduct (order.arrange effects)) fun _ L hL => ?_
  exact leaves_pure ⟨rfl, by simpa using hL⟩

/-! ## 5. Music -/

/-- Stopping the track in the slot, if there is one. -/
inductive StoppingMusic : Music → List Entry → Prop
  | idle : StoppingMusic none []
  | stopped {t : Track} {L : List Entry} (hL : Halting t.source L) :
      StoppingMusic (some t) (L ++ [.record (.musicStopped t.source t.name)])

/-- Putting a new track into the empty slot. -/
inductive Beginning (supply : Supply) (m : Mixer) (page : Option Url) (address : String)
    (request : MusicRequest) : MusicOutcome × Supply × Music → List Entry → Prop
  | failed {failure : PlaybackFailure} {supply' : Supply} {L : List Entry}
      (hL : Creating supply page address (.error failure, supply') L) :
      Beginning supply m page address request (.failed failure, supply', none)
        (L ++ [.record (.musicNotCreated address failure)])
  | started {id : SourceId} {supply' : Supply} {routing : Routing} {start : Start}
      {L R S : List Entry} (hL : Creating supply page address (.ok id, supply') L)
      (hR : Routes m page id .music .zero routing R) (hS : Starting id start S) :
      Beginning supply m page address request
        (.started id routing.isAttached start, supply',
          some ⟨id, request.name, request.loops, routing.route?⟩)
        (L ++ (.exchange (.setLooping id request.loops) () ::
          .exchange (.setVolume id (Level.whole 1)) () ::
            (R ++ (S ++
              [.record (.musicStarted id address request.loops routing.isAttached start)]))))

/-- Resuming a track, which is asked to play only if it is paused. -/
inductive Resuming (id : SourceId) : MusicOutcome → List Entry → Prop
  | playing : Resuming id .alreadyPlaying [.exchange (.isPaused id) false]
  | paused {start : Start} {S : List Entry} (hS : Starting id start S) :
      Resuming id (.resumed start) (.exchange (.isPaused id) true :: S)

/-- Playing music. -/
inductive PlayingMusic (music : Music) (supply : Supply) (m : Mixer) (page : Option Url)
    (base : String) (request : MusicRequest) :
    MusicOutcome × Supply × Music → List Entry → Prop
  | skipped (h : Address.resolve request.name base = none) :
      PlayingMusic music supply m page base request (.skipped, supply, music) []
  | answered {address : String} (h : Address.resolve request.name base = some address)
      {t : Track} (ht : music = some t) (ha : t.answers request = true) {outcome : MusicOutcome}
      {L : List Entry} (hL : Resuming t.source outcome L) :
      PlayingMusic music supply m page base request (outcome, supply, music) L
  | replaced {address : String} (h : Address.resolve request.name base = some address)
      (hother : ∀ t, music = some t → t.answers request = false)
      {result : MusicOutcome × Supply × Music} {L K : List Entry} (hL : StoppingMusic music L)
      (hK : Beginning supply m page address request result K) :
      PlayingMusic music supply m page base request result (L ++ K)

theorem stopMusic_conduct (music : Music) :
    Leaves (H := H) music.stop fun music' L => music' = none ∧ StoppingMusic music L := by
  cases music with
  | none => exact leaves_pure ⟨rfl, .idle⟩
  | some t =>
    refine leaves_bind (halt_conduct t.source) fun _ L hL => ?_
    exact leaves_log (leaves_pure ⟨rfl, .stopped hL⟩)

theorem begin_conduct (supply : Supply) (m : Mixer) (page : Option Url) (address : String)
    (request : MusicRequest) :
    Leaves (H := H) (Music.begin supply m page address request)
      (Beginning supply m page address request) := by
  unfold Music.begin
  refine leaves_bind (create_conduct supply page address) fun result L hL => ?_
  obtain ⟨made, supply'⟩ := result
  cases made with
  | error failure => exact leaves_log (leaves_pure (.failed hL))
  | ok id =>
    refine leaves_ask fun _ => leaves_ask fun _ => ?_
    refine leaves_bind (route_conduct m page id .music .zero) fun routing R hR => ?_
    refine leaves_bind (start_conduct id) fun start S hS => ?_
    exact leaves_log (leaves_pure (.started hL hR hS))

theorem resume_conduct (t : Track) : Leaves (H := H) t.resume (Resuming t.source) := by
  unfold Track.resume
  refine leaves_ask fun paused => ?_
  cases paused with
  | false => exact leaves_pure .playing
  | true =>
    refine leaves_bind (start_conduct t.source) fun start S hS => ?_
    exact leaves_pure (by simpa using .paused hS)

theorem playMusic_conduct (music : Music) (supply : Supply) (m : Mixer) (page : Option Url)
    (base : String) (request : MusicRequest) :
    Leaves (H := H) (music.play supply m page base request)
      (PlayingMusic music supply m page base request) := by
  unfold Music.play
  cases hr : Address.resolve request.name base with
  | none => exact leaves_pure (.skipped hr)
  | some address =>
    cases hf : music.filter (·.answers request) with
    | some t =>
      obtain ⟨ht, ha⟩ := Option.filter_eq_some_iff.mp hf
      refine leaves_bind (resume_conduct t) fun outcome L hL => ?_
      exact leaves_pure (by simpa using .answered hr ht ha hL)
    | none =>
      have hother : ∀ t, music = some t → t.answers request = false := fun t ht => by
        simpa using Option.filter_eq_none_iff.mp hf t ht
      refine leaves_bind (stopMusic_conduct music) fun _ L hL => ?_
      refine leaves_mono (begin_conduct supply m page address request) fun _ K hK => ?_
      exact .replaced hr hother hL.2 hK

/-! ## 6. Operations -/

/-- Setting the gain of a bus: the node of a live bus follows. -/
inductive SettingGain (b : Bus) (gain : Single) : List Entry → Prop
  | live {node : BusNode} (h : b.node = some node) :
      SettingGain b gain [.exchange (.setBusGain node (Level.gain gain)) ()]
  | inert (h : b.node = none) : SettingGain b gain []

/-- The mixer with the gain of a bus set. -/
def withGain (m : Mixer) (kind : BusKind) (gain : Single) : Mixer :=
  { m with buses := m.buses.set kind (.of gain (m.buses.get kind).node) }

/-- Asking at most `patience` times how a resumption stands. -/
inductive Awaiting : Nat → Option (Except ContextFailure Unit) → List Entry → Prop
  | impatient : Awaiting 0 none []
  | decided (patience : Nat) (result : Except ContextFailure Unit) :
      Awaiting (patience + 1) (some result) [.exchange .awaitResume (some result)]
  | pending {patience : Nat} {result : Option (Except ContextFailure Unit)} {L : List Entry}
      (hL : Awaiting patience result L) :
      Awaiting (patience + 1) result (.exchange .awaitResume none :: L)

/-- Letting the context run.  Without a context, and with one that runs already, nothing is resumed.
Otherwise it is resumed, once, and the host is asked how that goes, as often as the patience allows; if it
comes to an end in time, the result is the state of the context that is read after it, whether or not the
resumption failed. -/
inductive Unlocking (hasContext : Bool) : Nat → Option Bool → List Entry → Prop
  | unpolled : Unlocking hasContext 0 none []
  | noContext (patience : Nat) (h : hasContext = false) :
      Unlocking hasContext (patience + 1) (some false) []
  | running (patience : Nat) (h : hasContext = true) (state : ContextState) :
      Unlocking hasContext (patience + 1) (some (decide (state = .running)))
        [.exchange .contextState .running, .exchange .contextState state]
  | pending {patience : Nat} (h : hasContext = true) {before : ContextState}
      (hb : before ≠ .running) {L : List Entry} (hL : Awaiting (patience + 1) none L) :
      Unlocking hasContext (patience + 1) none
        (.exchange .contextState before :: .exchange .resume () :: L)
  | resumed {patience : Nat} (h : hasContext = true) {before : ContextState}
      (hb : before ≠ .running) {L : List Entry} (hL : Awaiting (patience + 1) (some (.ok ())) L)
      (state : ContextState) :
      Unlocking hasContext (patience + 1) (some (decide (state = .running)))
        (.exchange .contextState before :: .exchange .resume () ::
          (L ++ [.exchange .contextState state]))
  | failed {patience : Nat} (h : hasContext = true) {before : ContextState}
      (hb : before ≠ .running) {failure : ContextFailure} {L : List Entry}
      (hL : Awaiting (patience + 1) (some (.error failure)) L) (state : ContextState) :
      Unlocking hasContext (patience + 1) (some (decide (state = .running)))
        (.exchange .contextState before :: .exchange .resume () ::
          (L ++ [.record (.unlockFailed failure), .exchange .contextState state]))

/-- Asking whether the context runs. -/
inductive Looking (hasContext : Bool) : Bool → List Entry → Prop
  | noContext (h : hasContext = false) : Looking hasContext false []
  | context (h : hasContext = true) (state : ContextState) :
      Looking hasContext (decide (state = .running)) [.exchange .contextState state]

theorem busGain_conduct (b : Bus) (gain : Single) :
    Leaves (H := H) (b.setGain gain) fun b' L => b' = .of gain b.node ∧ SettingGain b gain L := by
  unfold Bus.setGain
  cases hn : b.node with
  | none => exact leaves_pure ⟨rfl, .inert hn⟩
  | some node =>
    change Leaves (ask (.setBusGain node (Level.gain gain)) >>= fun _ => pure (Bus.of gain node)) _
    exact leaves_ask fun _ => leaves_pure ⟨rfl, .live hn⟩

theorem setGain_conduct (m : Mixer) (kind : BusKind) (gain : Single) :
    Leaves (H := H) (m.setGain kind gain) fun m' L =>
      m' = withGain m kind gain ∧ SettingGain (m.buses.get kind) gain L := by
  unfold Mixer.setGain
  refine leaves_bind (busGain_conduct _ gain) fun b L hL => ?_
  obtain ⟨rfl, hL⟩ := hL
  exact leaves_pure ⟨rfl, by simpa using hL⟩

theorem engineGain_conduct (e : Engine) (kind : BusKind) (gain : Single) :
    Leaves (H := H) (e.setGain kind gain) fun e' L =>
      e' = { e with mixer := withGain e.mixer kind gain } ∧
        SettingGain (e.mixer.buses.get kind) gain L := by
  refine leaves_bind (setGain_conduct e.mixer kind gain) fun mixer L hL => ?_
  obtain ⟨rfl, hL⟩ := hL
  exact leaves_pure ⟨rfl, by simpa using hL⟩

theorem awaitResume_conduct : ∀ patience : Nat,
    Leaves (H := H) (Engine.awaitResume patience) (Awaiting patience)
  | 0 => leaves_pure .impatient
  | patience + 1 => by
    unfold Engine.awaitResume
    refine leaves_ask fun reply => ?_
    cases reply with
    | some result => exact leaves_pure (.decided patience result)
    | none => exact leaves_mono (awaitResume_conduct patience) fun _ L hL => .pending hL

theorem running_conduct :
    Leaves (H := H) Engine.isRunning fun running L =>
      ∃ state, running = decide (state = .running) ∧ L = [.exchange .contextState state] := by
  unfold Engine.isRunning
  exact leaves_ask fun state => leaves_pure ⟨state, rfl, rfl⟩

theorem unlock_conduct (e : Engine) (patience : Nat) :
    Leaves (H := H) (e.unlock patience) (Unlocking e.mixer.hasContext patience) := by
  unfold Engine.unlock
  cases patience with
  | zero => exact leaves_pure .unpolled
  | succ patience =>
    rw [if_neg (Nat.succ_ne_zero patience)]
    cases hc : e.mixer.hasContext with
    | false => exact leaves_pure (.noContext patience rfl)
    | true =>
      change Leaves (Engine.isRunning >>= fun running => _) _
      refine leaves_bind running_conduct fun running L hL => ?_
      obtain ⟨before, rfl, rfl⟩ := hL
      by_cases hb : before = .running
      · simp only [hb, decide_true, if_true]
        refine leaves_map (leaves_mono running_conduct ?_)
        rintro _ _ ⟨state, rfl, rfl⟩
        exact .running patience rfl state
      · rw [if_neg (by simpa using hb)]
        refine leaves_ask fun _ => ?_
        refine leaves_bind (awaitResume_conduct (patience + 1)) fun result L hL => ?_
        match result with
        | none => exact leaves_pure (by simpa using .pending rfl hb hL)
        | some (.ok ()) =>
          refine leaves_map (leaves_mono running_conduct ?_)
          rintro _ _ ⟨state, rfl, rfl⟩
          exact .resumed rfl hb hL state
        | some (.error failure) =>
          refine leaves_log (leaves_map (leaves_mono running_conduct ?_))
          rintro _ _ ⟨state, rfl, rfl⟩
          exact .failed rfl hb hL state

theorem isUnlocked_conduct (e : Engine) :
    Leaves (H := H) e.isUnlocked (Looking e.mixer.hasContext) := by
  unfold Engine.isUnlocked
  cases hc : e.mixer.hasContext with
  | false => exact leaves_pure (.noContext rfl)
  | true => exact leaves_ask fun state => leaves_pure (.context rfl state)

/-! ## 7. Events and whole operations

An operation that drains takes the events that wait and applies them to the tracked effects, before
anything else.  `Acts` is what it does then. -/

/-- The tracked effects after some events, one after the other: a final event ends the effect it is of,
and all other events change nothing. -/
def heeding (effects : Effects) (notices : List Notice) : Effects :=
  notices.foldl Effects.apply effects

/-- The records of the effects that some events end. -/
def farewells : Effects → List Notice → List Entry
  | _, [] => []
  | effects, n :: ns =>
    (if effects.endsWith n then [.record (.effectFinished n)] else []) ++
      farewells (effects.apply n) ns

@[simp] theorem exchangesOf_farewells (effects : Effects) (notices : List Notice) :
    exchangesOf (farewells effects notices) = [] := by
  induction notices generalizing effects with
  | nil => rfl
  | cons n ns ih =>
    unfold farewells
    rw [exchangesOf_append, ih]
    split <;> rfl

/-- What an engine does to perform an operation, once it has heeded the drained events. -/
inductive Acts (drained : List Notice) (e : Engine) :
    Operation → Answer × Engine → List Entry → Prop
  | playEffect {request : EffectRequest} {outcome : EffectOutcome} {supply : Supply}
      {effects : Effects} {L : List Entry}
      (hL : PlayingEffect e.effects e.supply e.mixer e.page e.settings.effectiveBase request
        (outcome, supply, effects) L) :
      Acts drained e (.playEffect request) (.effect outcome, { e with supply, effects }) L
  | playMusic {request : MusicRequest} {outcome : MusicOutcome} {supply : Supply}
      {music : Music} {L : List Entry}
      (hL : PlayingMusic e.music e.supply e.mixer e.page e.settings.effectiveBase request
        (outcome, supply, music) L) :
      Acts drained e (.playMusic request) (.music outcome, { e with supply, music }) L
  | stopMusic {L : List Entry} (hL : StoppingMusic e.music L) :
      Acts drained e .stopMusic (.done, { e with music := none }) L
  | stopAll {order : VisitOrder} {L K : List Entry} (hL : StoppingMusic e.music L)
      (hK : HaltingEach (order.arrange e.effects) K) :
      Acts drained e (.stopAll order) (.done, { e with music := none, effects := [] }) (L ++ K)
  | drain : Acts drained e .drain (.drained drained.length, e) []
  | setGain {kind : BusKind} {gain : Single} {L : List Entry}
      (hL : SettingGain (e.mixer.buses.get kind) gain L) :
      Acts drained e (.setGain kind gain)
        (.gain ((withGain e.mixer kind gain).gain kind),
          { e with mixer := withGain e.mixer kind gain }) L
  | unlock {patience : Nat} {result : Option Bool} {L : List Entry}
      (hL : Unlocking e.mixer.hasContext patience result L) :
      Acts drained e (.unlock patience) (.unlocked result, e) L
  | isUnlocked {running : Bool} {L : List Entry} (hL : Looking e.mixer.hasContext running L) :
      Acts drained e .isUnlocked (.unlocked (some running), e) L

theorem heed_conduct : ∀ (effects : Effects) (notices : List Notice),
    Leaves (H := H) (Engine.heed effects notices) fun effects' L =>
      effects' = heeding effects notices ∧ L = farewells effects notices
  | effects, [] => leaves_pure ⟨rfl, rfl⟩
  | effects, n :: ns => by
    unfold Engine.heed
    by_cases hn : effects.endsWith n = true
    · simp only [if_pos hn]
      refine leaves_log (leaves_mono (heed_conduct (effects.apply n) ns) ?_)
      rintro _ _ ⟨rfl, rfl⟩
      exact ⟨rfl, by simp [farewells, hn]⟩
    · simp only [if_neg hn]
      refine leaves_mono (heed_conduct (effects.apply n) ns) ?_
      rintro _ _ ⟨rfl, rfl⟩
      exact ⟨rfl, by simp [farewells, hn]⟩

/-- The session without the events that wait. -/
def emptied (s : Session H) : Session H := { s with mailbox := .listening [] }

/-- A drain takes all events that wait, and the engine heeds them. -/
theorem drain_run {e : Engine} {s : Session H} {waiting : List Notice}
    (hs : s.mailbox = .listening waiting) :
    ∃ t, e.drain s = ((waiting.length, { e with effects := heeding e.effects waiting }), t) ∧
      (emptied s).Unfolds (farewells e.effects waiting) t := by
  have htake : (takeNotices : HostM H _) s = (waiting, emptied s) := by
    simp only [takeNotices, hs]
    rfl
  obtain ⟨K, hK, hE⟩ := heed_conduct e.effects waiting (emptied s)
  cases hheed : Engine.heed e.effects waiting (emptied s) with
  | mk effects t =>
    rw [hheed] at hK hE
    obtain ⟨rfl, rfl⟩ := hE
    refine ⟨t, ?_, hK⟩
    simp only [Engine.drain, bind, StateT.bind, htake, hheed]
    rfl

/-- **Draining first.**  An action that begins with a drain takes all events that wait, and goes on
with the engine that has heeded them. -/
theorem drain_conduct {β : Type} {e : Engine} {s : Session H} {waiting : List Notice}
    (hs : s.mailbox = .listening waiting) {f : Nat × Engine → HostM H β}
    {P : β → List Entry → Prop}
    (h : Leaves (f (waiting.length, { e with effects := heeding e.effects waiting })) P) :
    ∃ L, (emptied s).Unfolds (farewells e.effects waiting ++ L) ((e.drain >>= f) s).2 ∧
      P ((e.drain >>= f) s).1 L := by
  obtain ⟨t, hdrain, hK⟩ := drain_run (e := e) hs
  have hrun : (e.drain >>= f) s =
      f (waiting.length, { e with effects := heeding e.effects waiting }) t := by
    simp only [bind, StateT.bind, hdrain]
  obtain ⟨L, hL, hP⟩ := h t
  rw [hrun]
  exact ⟨L, hK.trans hL, hP⟩

/-- The operation drains before it does anything else.  Only those that set a gain, or are about the
context, leave the events where they are. -/
def drains : Operation → Bool
  | .setGain _ _ | .unlock _ | .isUnlocked => false
  | _ => true

/-- The events that an operation takes out of the mailbox: all that wait, or none if it does not drain. -/
def consumed (operation : Operation) (s : Session H) : List Notice :=
  if drains operation then s.mailbox.waiting else []

/-- The engine that has heeded some events. -/
def heeded (e : Engine) (notices : List Notice) : Engine :=
  { e with effects := heeding e.effects notices }

/-- **The conduct of an operation.**  It takes the events that it drains, applies them, and then
acts. -/
def Performs (e : Engine) (operation : Operation) (s : Session H) : Prop :=
  ∃ L, (if drains operation then emptied s else s).Unfolds
      (farewells e.effects (consumed operation s) ++ L) (e.perform operation s).2 ∧
    Acts (consumed operation s) (heeded e (consumed operation s)) operation
      (e.perform operation s).1 L

theorem performs_of_drains {e : Engine} {operation : Operation} {s : Session H}
    (hs : s.Listening) (hd : drains operation = true) {f : Nat × Engine → HostM H (Answer × Engine)}
    (hf : e.perform operation = e.drain >>= f)
    (h : ∀ notices, Leaves (f (notices.length, heeded e notices))
      (Acts notices (heeded e notices) operation)) : Performs e operation s := by
  obtain ⟨waiting, hw⟩ := hs
  have hc : consumed operation s = waiting := by simp [consumed, hd, hw, Mailbox.waiting]
  unfold Performs
  rw [hc, hf, if_pos hd]
  exact drain_conduct hw (h waiting)

theorem performs_of_not_drains {e : Engine} {operation : Operation} {s : Session H}
    (hd : drains operation = false)
    (h : Leaves (H := H) (e.perform operation) (Acts [] e operation)) : Performs e operation s := by
  have hc : consumed operation s = [] := by simp [consumed, hd]
  unfold Performs
  rw [hc, if_neg (by simp [hd])]
  exact h s

theorem perform_conduct (e : Engine) (operation : Operation) {s : Session H} (hs : s.Listening) :
    Performs e operation s := by
  -- The first five take in the notices, whose number goes to the answer of a drain alone.
  cases operation with
  | playEffect request =>
    refine performs_of_drains hs rfl (f := fun x => do
      let r ← x.2.effects.play x.2.supply x.2.mixer x.2.page x.2.settings.effectiveBase request
      pure (.effect r.1, { x.2 with supply := r.2.1, effects := r.2.2 })) rfl fun notices => ?_
    refine leaves_bind (playEffect_conduct _ _ _ _ _ _) fun result L hL => leaves_pure ?_
    rw [List.append_nil]
    exact .playEffect hL
  | playMusic request =>
    refine performs_of_drains hs rfl (f := fun x => do
      let r ← x.2.music.play x.2.supply x.2.mixer x.2.page x.2.settings.effectiveBase request
      pure (.music r.1, { x.2 with supply := r.2.1, music := r.2.2 })) rfl fun notices => ?_
    refine leaves_bind (playMusic_conduct _ _ _ _ _ _) fun result L hL => leaves_pure ?_
    rw [List.append_nil]
    exact .playMusic hL
  | stopMusic =>
    refine performs_of_drains hs rfl (f := fun x => do
      let music ← x.2.music.stop
      pure (.done, { x.2 with music })) rfl fun notices => ?_
    refine leaves_bind (stopMusic_conduct _) fun music L hL => leaves_pure ?_
    obtain ⟨rfl, hL⟩ := hL
    rw [List.append_nil]
    exact .stopMusic hL
  | stopAll order =>
    refine performs_of_drains hs rfl (f := fun x => do
      let music ← x.2.music.stop
      let effects ← x.2.effects.stopAll order
      pure (.done, { x.2 with music, effects })) rfl fun notices => ?_
    refine leaves_bind (stopMusic_conduct _) fun music L hL => ?_
    obtain ⟨rfl, hL⟩ := hL
    refine leaves_bind (stopEffects_conduct _ order) fun effects K hK => leaves_pure ?_
    obtain ⟨rfl, hK⟩ := hK
    rw [List.append_nil]
    exact .stopAll hL hK
  | drain =>
    refine performs_of_drains hs rfl (f := fun x => pure (.drained x.1, x.2)) rfl fun notices => ?_
    exact leaves_pure .drain
  | setGain kind gain =>
    refine performs_of_not_drains rfl ?_
    refine leaves_bind (engineGain_conduct e kind gain) fun e' L hL => leaves_pure ?_
    obtain ⟨rfl, hL⟩ := hL
    rw [List.append_nil]
    exact .setGain hL
  | unlock patience =>
    refine performs_of_not_drains rfl ?_
    refine leaves_bind (unlock_conduct e patience) fun result L hL => leaves_pure ?_
    rw [List.append_nil]
    exact .unlock hL
  | isUnlocked =>
    refine performs_of_not_drains rfl ?_
    refine leaves_bind (isUnlocked_conduct e) fun running L hL => leaves_pure ?_
    rw [List.append_nil]
    exact .isUnlocked hL

/-! ## 8. Building an engine -/

/-- Looking for a processing context. -/
inductive FindingContext : Bool → List Entry → Prop
  | unsupported : FindingContext false [.exchange .supportsGraph false]
  | asked (made : Bool) :
      FindingContext made [.exchange .supportsGraph true, .exchange .createContext made]

/-- Making the bus of a kind in a context. -/
inductive CreatingBus (kind : BusKind) (gain : Single) : Bus → List Entry → Prop
  | made (node : BusNode) :
      CreatingBus kind gain (.of gain (some node)) [.exchange (.createBus gain) (.ok node)]
  | missing (failure : GraphFailure) :
      CreatingBus kind gain (.of gain none)
        [.exchange (.createBus gain) (.error failure), .record (.busMissing kind failure)]

/-- Making the three buses. -/
inductive BuildingMixer (gains : Gains) : Mixer → List Entry → Prop
  | inert : BuildingMixer gains ⟨false, .of fun kind => .of (gains.level kind) none⟩ []
  | live {effects music ambience : Bus} {L K J : List Entry}
      (hL : CreatingBus .effects (gains.level .effects) effects L)
      (hK : CreatingBus .music (gains.level .music) music K)
      (hJ : CreatingBus .ambience (gains.level .ambience) ambience J) :
      BuildingMixer gains ⟨true, effects, music, ambience⟩ (L ++ (K ++ J))

/-- Building an engine. -/
inductive Building (settings : Settings) : Engine → List Entry → Prop
  | unrouted (page : Option Url) {mixer : Mixer} {L K : List Entry}
      (hL : FindingContext false L) (hK : BuildingMixer settings.gains mixer K)
      (hm : mixer.hasContext = false) :
      Building settings ⟨settings, page, {}, mixer, [], none⟩
        (.exchange .pageAddress page :: (L ++ (.record .noContext :: K)))
  | routed (page : Option Url) {mixer : Mixer} {L K : List Entry}
      (hL : FindingContext true L) (hK : BuildingMixer settings.gains mixer K)
      (hm : mixer.hasContext = true) :
      Building settings ⟨settings, page, {}, mixer, [], none⟩
        (.exchange .pageAddress page :: (L ++ K))

theorem findContext_conduct : Leaves (H := H) Engine.findContext FindingContext := by
  unfold Engine.findContext
  refine leaves_ask fun supported => ?_
  cases supported with
  | false => exact leaves_pure .unsupported
  | true => exact leaves_ask_last fun made => .asked made

theorem createBus_conduct (kind : BusKind) (gain : Single) :
    Leaves (H := H) (Bus.create kind gain) (CreatingBus kind gain) := by
  unfold Bus.create
  refine leaves_ask fun reply => ?_
  cases reply with
  | ok node => exact leaves_pure (.made node)
  | error failure => exact leaves_log (leaves_pure (.missing failure))

theorem buildMixer_conduct (hasContext : Bool) (gains : Gains) :
    Leaves (H := H) (Mixer.build hasContext gains) fun mixer L =>
      mixer.hasContext = hasContext ∧ BuildingMixer gains mixer L := by
  unfold Mixer.build
  cases hasContext with
  | false => exact leaves_pure ⟨rfl, .inert⟩
  | true =>
    refine leaves_bind (createBus_conduct .effects _) fun effects L hL => ?_
    refine leaves_bind (createBus_conduct .music _) fun music K hK => ?_
    refine leaves_bind (createBus_conduct .ambience _) fun ambience J hJ => ?_
    exact leaves_pure ⟨rfl, by simpa using .live hL hK hJ⟩

theorem build_conduct (settings : Settings) :
    Leaves (H := H) (Engine.build settings) (Building settings) := by
  unfold Engine.build
  refine leaves_ask fun page => ?_
  refine leaves_bind findContext_conduct fun hasContext L hL => ?_
  cases hasContext with
  | false =>
    refine leaves_log ?_
    refine leaves_bind (buildMixer_conduct false settings.gains) fun mixer K hK => ?_
    exact leaves_pure (by simpa using .unrouted page hL hK.2 hK.1)
  | true =>
    refine leaves_bind (buildMixer_conduct true settings.gains) fun mixer K hK => ?_
    exact leaves_pure (by simpa using .routed page hL hK.2 hK.1)

end Conduct

end SoundEngine
