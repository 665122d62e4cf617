import SoundEngine.Proofs.Dossier
import SoundEngine.Proofs.Levels
import SoundEngine.Simulation.Stage

/-!
# The buses mirror what was asked for

A gain is kept twice, in the engine and in the node of its bus, and it is given in two ways, by the
settings an engine is built with and by a request later on.  The two ways clamp differently: settings
keep not-a-number, a request makes silence of it.  This module shows that none of that can be seen.

* §1 names the calls on contexts and buses, and §2 shows that no conduct makes one, except for setting
  a gain and for building an engine.  Building is `Construction`, with all its calls written out.
* §3 is the law of one step (`Passage.mixes`): setting a gain makes one call, on the node of the bus,
  and no other step makes any.
* §4 follows it through a run.  Nodes stay as they were made, so what a step does to the buses can be
  told from the step alone, and the gain of a bus is the last one that was asked for.
* §5 starts the run with the settings: what is configured is what is asked for first.
-/

namespace SoundEngine

variable {H : Host}

/-! ## 1. Calls on contexts and buses -/

/-- A call that makes a context or a bus, or sets the gain of a bus. -/
def Call.isMixing : Call → Bool
  | .createContext | .createBus _ | .setBusGain _ _ => true
  | _ => false

/-- The calls on contexts and buses, with their answers. -/
def mixing (X : List Exchange) : List Exchange := X.filter fun x => x.call.isMixing

@[simp] theorem mixing_append (X Y : List Exchange) : mixing (X ++ Y) = mixing X ++ mixing Y :=
  List.filter_append X Y

/-- What is about a source, or about nodes, is not about buses. -/
theorem Block.mixing {id : SourceId} {B : List Exchange} (h : Block (some id) B) :
    SoundEngine.mixing B = [] := by
  refine List.filter_eq_nil_iff.mpr fun x hx hmixing => ?_
  have habout := h.about x hx
  obtain ⟨call, reply⟩ := x
  cases call with
  | createContext | createBus | setBusGain => exact Option.some_ne_none id (habout rfl).symm
  | _ => exact Bool.false_ne_true hmixing

/-- The gain that the exchange gives to a node: the one it is made with, or the one it is set to. -/
def Exchange.gives? (node : BusNode) : Exchange → Option Single
  | ⟨.createBus gain, reply⟩ => if reply.toOption = some node then some gain else none
  | ⟨.setBusGain other gain, _⟩ => if other = node then some gain else none
  | _ => none

/-- The gains that a node was given, in their order: the one it was made with first, then those it was set
to. -/
def given (node : BusNode) (X : List Exchange) : List Single := X.filterMap (Exchange.gives? node)

@[simp] theorem given_append (node : BusNode) (X Y : List Exchange) :
    given node (X ++ Y) = given node X ++ given node Y :=
  List.filterMap_append

/-- Nodes are given gains by no other calls. -/
theorem given_mixing (node : BusNode) (X : List Exchange) : given node (mixing X) = given node X := by
  unfold given mixing
  rw [List.filterMap_filter]
  congr 1
  funext x
  obtain ⟨call, reply⟩ := x
  cases call <;> rfl

/-! ## 2. Who makes such calls -/

namespace Conduct

theorem creating_mixing {supply supply' : Supply} {page : Option Url} {address : String}
    {failure : PlaybackFailure} {L : List Entry}
    (h : Creating supply page address (.error failure, supply') L) :
    mixing (exchangesOf L) = [] := by
  rw [(creating_error h).2]
  rfl

theorem playingEffect_mixing {effects : Effects} {supply : Supply} {m : Mixer} {page : Option Url}
    {base : String} {request : EffectRequest} {result : EffectOutcome × Supply × Effects}
    {L : List Entry} (h : PlayingEffect effects supply m page base request result L) :
    mixing (exchangesOf L) = [] := by
  cases h with
  | skipped => rfl
  | failed _ hL => simp [creating_mixing hL]
  | played _ hL hR hS => exact (effect_opened hL hR hS _).1.mixing

theorem stoppingMusic_mixing {music : Music} {L : List Entry} (h : StoppingMusic music L) :
    mixing (exchangesOf L) = [] := by
  cases h with
  | idle => rfl
  | stopped hL => simp [(halting_block hL).mixing]

theorem beginning_mixing {supply : Supply} {m : Mixer} {page : Option Url} {address : String}
    {request : MusicRequest} {result : MusicOutcome × Supply × Music} {K : List Entry}
    (h : Beginning supply m page address request result K) : mixing (exchangesOf K) = [] := by
  cases h with
  | failed hL => simp [creating_mixing hL]
  | started hL hR hS => exact (track_opened hL hR hS _).1.mixing

theorem playingMusic_mixing {music : Music} {supply : Supply} {m : Mixer} {page : Option Url}
    {base : String} {request : MusicRequest} {result : MusicOutcome × Supply × Music}
    {L : List Entry} (h : PlayingMusic music supply m page base request result L) :
    mixing (exchangesOf L) = [] := by
  cases h with
  | skipped => rfl
  | answered _ _ _ hL => exact (resuming_block hL).mixing
  | replaced _ _ hL hK => simp [stoppingMusic_mixing hL, beginning_mixing hK]

theorem haltingEach_mixing {effects : Effects} {K : List Entry} (h : HaltingEach effects K) :
    mixing (exchangesOf K) = [] := by
  induction h with
  | nil => rfl
  | cons hL _ ih => simp [(halting_block hL).mixing, ih]

theorem awaiting_mixing {patience : Nat} {result : Option (Except ContextFailure Unit)}
    {L : List Entry} (h : Awaiting patience result L) : mixing (exchangesOf L) = [] := by
  induction h with
  | impatient => rfl
  | decided => rfl
  | pending _ ih => exact ih

theorem unlocking_mixing {hasContext : Bool} {patience : Nat} {result : Option Bool}
    {L : List Entry} (h : Unlocking hasContext patience result L) :
    mixing (exchangesOf L) = [] := by
  cases h with
  | unpolled | noContext | running => rfl
  | pending _ _ hL =>
    have hnone := awaiting_mixing hL
    exact hnone
  | resumed _ _ hL | failed _ _ hL =>
    change mixing (exchangesOf (_ ++ _)) = []
    rw [exchangesOf_append, mixing_append, awaiting_mixing hL]
    rfl

theorem looking_mixing {hasContext running : Bool} {L : List Entry}
    (h : Looking hasContext running L) : mixing (exchangesOf L) = [] := by
  cases h <;> rfl

end Conduct

/-- **Building the buses.**  There is at most one attempt to make a context.  Without one no bus is
made; with one, each bus is, in their order, and it has a node if that call succeeded, whatever came of
the others. -/
inductive Construction (gains : Gains) : Mixer → List Exchange → Prop
  | unsupported : Construction gains ⟨false, .of fun kind => .of (gains.get kind) none⟩ []
  | noContext :
      Construction gains ⟨false, .of fun kind => .of (gains.get kind) none⟩
        [⟨.createContext, false⟩]
  | context (replies : BusKind → Except GraphFailure BusNode) :
      Construction gains ⟨true, .of fun kind => .of (gains.get kind) (replies kind).toOption⟩
        (⟨.createContext, true⟩ ::
          BusKind.all.map fun kind => ⟨.createBus (gains.level kind), replies kind⟩)

namespace Conduct

/-- A gain that is in its range already makes the same bus. -/
theorem of_level (gains : Gains) (kind : BusKind) (node : Option BusNode) :
    Bus.of (gains.level kind) node = Bus.of (gains.get kind) node := by
  unfold Bus.of Gains.level
  rw [Level.gain_gain]

theorem creatingBus_mixing {gains : Gains} {kind : BusKind} {b : Bus} {L : List Entry}
    (h : CreatingBus kind (gains.level kind) b L) :
    ∃ reply, b = .of (gains.get kind) reply.toOption ∧
      mixing (exchangesOf L) = [⟨.createBus (gains.level kind), reply⟩] := by
  cases h with
  | made node => exact ⟨.ok node, of_level gains kind _, rfl⟩
  | missing failure => exact ⟨.error failure, of_level gains kind _, rfl⟩

theorem building_mixing {settings : Settings} {e : Engine} {L : List Entry}
    (h : Building settings e L) :
    Construction settings.gains e.mixer (mixing (exchangesOf L)) := by
  have hinert : (⟨false, .of fun kind => .of (settings.gains.level kind) none⟩ : Mixer) =
      ⟨false, .of fun kind => .of (settings.gains.get kind) none⟩ := by
    congr 2
    funext kind
    exact of_level settings.gains kind none
  cases h with
  | unrouted page hL hK hm =>
    cases hK with
    | live => cases hm
    | inert =>
      cases hL with
      | unsupported => exact hinert ▸ .unsupported
      | asked => exact hinert ▸ .noContext
  | routed page hL hK hm =>
    cases hK with
    | inert => cases hm
    | live hE hM hA =>
      cases hL with
      | asked =>
        obtain ⟨effects, rfl, heffects⟩ := creatingBus_mixing hE
        obtain ⟨music, rfl, hmusic⟩ := creatingBus_mixing hM
        obtain ⟨ambience, rfl, hambience⟩ := creatingBus_mixing hA
        have h : Construction settings.gains _ _ :=
          .context (PerBus.get ⟨effects, music, ambience⟩)
        have hcalls (L K J : List Entry) : mixing (exchangesOf (.exchange .pageAddress page ::
            ([.exchange .supportsGraph true, .exchange .createContext true] ++ (L ++ (K ++ J))))) =
            ⟨.createContext, true⟩ ::
              (mixing (exchangesOf L) ++ (mixing (exchangesOf K) ++ mixing (exchangesOf J))) := by
          rw [← mixing_append, ← exchangesOf_append, ← mixing_append, ← exchangesOf_append]
          rfl
        rw [hcalls, heffects, hmusic, hambience]
        exact h

end Conduct

/-! ## 3. One step -/

namespace Step

/-- The gain that a step asks for a bus. -/
def gainAsked? (kind : BusKind) : Step H → Option Single
  | .perform (.setGain other gain) => if other = kind then some gain else none
  | _ => none

/-- The calls on contexts and buses that a step makes: one, if it sets the gain of a live bus. -/
def turns (m : Mixer) : Step H → List Exchange
  | .perform (.setGain kind gain) =>
    (m.buses.get kind).node.toList.map fun node => ⟨.setBusGain node (Level.gain gain), ()⟩
  | _ => []

/-- The mixer after a step. -/
def mixed (m : Mixer) : Step H → Mixer
  | .perform (.setGain kind gain) => Conduct.withGain m kind gain
  | _ => m

end Step

namespace Conduct

variable {m : Mixer} {kind other : BusKind} {gain : Single}

theorem withGain_node (m : Mixer) (kind : BusKind) (gain : Single) (other : BusKind) :
    ((withGain m kind gain).buses.get other).node = (m.buses.get other).node := by
  unfold withGain
  by_cases h : other = kind
  · subst h
    rw [PerBus.get_set_self]
    rfl
  · rw [PerBus.get_set_of_ne _ _ h]

theorem withGain_gain (m : Mixer) (kind : BusKind) (gain : Single) (other : BusKind) :
    (withGain m kind gain).gain other =
      if kind = other then Level.gain gain else m.gain other := by
  unfold withGain Mixer.gain
  by_cases h : kind = other
  · subst h
    rw [PerBus.get_set_self, if_pos rfl]
    rfl
  · rw [PerBus.get_set_of_ne _ _ (Ne.symm h), if_neg h]

theorem settingGain_mixing {L : List Entry} (h : SettingGain (m.buses.get kind) gain L) :
    mixing (exchangesOf L) =
      (m.buses.get kind).node.toList.map fun node => ⟨.setBusGain node (Level.gain gain), ()⟩ := by
  cases h with
  | live h =>
    rw [h]
    rfl
  | inert h =>
    rw [h]
    rfl

theorem acts_mixing {drained : List Notice} {e e' : Engine} {op : Operation} {answer : Answer}
    {L : List Entry} (h : Acts drained e op (answer, e') L) :
    e'.mixer = (Step.perform op : Step H).mixed e.mixer ∧
      mixing (exchangesOf L) = (Step.perform op : Step H).turns e.mixer := by
  cases h with
  | playEffect hL => exact ⟨rfl, playingEffect_mixing hL⟩
  | playMusic hL => exact ⟨rfl, playingMusic_mixing hL⟩
  | stopMusic hL => exact ⟨rfl, stoppingMusic_mixing hL⟩
  | stopAll hL hK =>
    refine ⟨rfl, ?_⟩
    rw [exchangesOf_append, mixing_append, stoppingMusic_mixing hL, haltingEach_mixing hK]
    rfl
  | drain => exact ⟨rfl, rfl⟩
  | setGain hL => exact ⟨rfl, settingGain_mixing hL⟩
  | unlock hL => exact ⟨rfl, unlocking_mixing hL⟩
  | isUnlocked hL => exact ⟨rfl, looking_mixing hL⟩

end Conduct

/-- **One step.**  It changes the mixer and makes the calls on buses that the step itself names. -/
theorem Passage.mixes {p : Passage H} (hl : p.start.session.Listening) :
    p.finish.engine.mixer = p.step.mixed p.start.engine.mixer ∧
      mixing p.exchanges = p.step.turns p.start.engine.mixer := by
  cases hstep : p.step with
  | meanwhile change notices =>
    rw [(rested hstep).2.1, exchanges_rested hl hstep]
    exact ⟨rfl, rfl⟩
  | perform op =>
    obtain ⟨answer, L, -, hX, hA⟩ := acted hl hstep
    have hmixes := Conduct.acts_mixing (H := H) hA
    rw [hX]
    exact hmixes

/-! ## 4. A whole run -/

/-- The gains that a run asks for a bus, in their order. -/
def gainsAsked (kind : BusKind) (steps : List (Step H)) : List Single :=
  steps.filterMap (Step.gainAsked? kind)

/-- No other bus has the node of this one.  A host may answer two requests for a bus with one node, and
then what the node is given last is the gain of either. -/
def Mixer.Owns (m : Mixer) (kind : BusKind) (node : BusNode) : Prop :=
  ∀ other, (m.buses.get other).node = some node ↔ other = kind

namespace Step

variable (m : Mixer) (step : Step H) (kind : BusKind)

theorem mixed_node : ((step.mixed m).buses.get kind).node = (m.buses.get kind).node := by
  unfold mixed
  split
  · exact Conduct.withGain_node _ _ _ _
  · rfl

theorem mixed_hasContext : (step.mixed m).hasContext = m.hasContext := by
  unfold mixed
  split <;> rfl

theorem mixed_gain :
    (step.mixed m).gain kind = ((step.gainAsked? kind).map Level.gain).getD (m.gain kind) := by
  unfold mixed gainAsked?
  split
  · rw [Conduct.withGain_gain]
    split <;> rfl
  · rfl

/-- Which calls a step makes on buses depends on their nodes alone. -/
theorem turns_congr {m m' : Mixer}
    (h : ∀ kind, (m'.buses.get kind).node = (m.buses.get kind).node) (step : Step H) :
    step.turns m' = step.turns m := by
  unfold turns
  split
  · rw [h]
  · rfl

/-- A node that one bus has is given the gains that are asked for that bus, and no others. -/
theorem given_turns {m : Mixer} {kind : BusKind} {node : BusNode} (h : m.Owns kind node)
    (step : Step H) : given node (step.turns m) = (step.gainAsked? kind).toList.map Level.gain := by
  unfold turns gainAsked?
  split
  case h_2 => rfl
  case h_1 other gain =>
    by_cases hother : other = kind
    · rw [(h other).mpr hother, if_pos hother]
      simp [given, Exchange.gives?]
    · rw [if_neg hother]
      have hne : (m.buses.get other).node ≠ some node := fun hn => hother ((h other).mp hn)
      cases hn : (m.buses.get other).node with
      | none => rfl
      | some node' =>
        have hnode : node' ≠ node := fun he => hne (hn.trans (congrArg some he))
        simp [given, Exchange.gives?, hnode]

end Step

section Run

variable {now : Situation H}

/-- **The mixer after a run** is told by its steps alone. -/
theorem mixer_after (hl : now.session.Listening) (steps : List (Step H)) :
    (now.after steps).engine.mixer = steps.foldl Step.mixed now.engine.mixer := by
  induction steps generalizing now with
  | nil => rfl
  | cons step rest ih =>
    let p : Passage H := ⟨now, step⟩
    rw [List.foldl_cons, ← (Passage.mixes (p := p) hl).1]
    exact ih (Passage.finish_listening (p := p) hl)

/-- Nodes stay as they were made. -/
theorem node_after (hl : now.session.Listening) (steps : List (Step H)) (kind : BusKind) :
    ((now.after steps).engine.mixer.buses.get kind).node = (now.engine.mixer.buses.get kind).node := by
  rw [mixer_after hl]
  generalize now.engine.mixer = m
  induction steps generalizing m with
  | nil => rfl
  | cons step rest ih => rw [List.foldl_cons, ih, Step.mixed_node]

theorem hasContext_after (hl : now.session.Listening) (steps : List (Step H)) :
    (now.after steps).engine.mixer.hasContext = now.engine.mixer.hasContext := by
  rw [mixer_after hl]
  generalize now.engine.mixer = m
  induction steps generalizing m with
  | nil => rfl
  | cons step rest ih => rw [List.foldl_cons, ih, Step.mixed_hasContext]

/-- **The gain of a bus** is the last one that was asked for, brought into its range. -/
theorem gain_after (hl : now.session.Listening) {kind : BusKind} {first : Single}
    (h : now.engine.mixer.gain kind = Level.gain first) (steps : List (Step H)) :
    (now.after steps).engine.mixer.gain kind =
      Level.gain ((gainsAsked kind steps).getLastD first) := by
  rw [mixer_after hl]
  generalize now.engine.mixer = m at h ⊢
  induction steps generalizing m first with
  | nil => exact h
  | cons step rest ih =>
    have hgain := Step.mixed_gain m step kind
    rw [List.foldl_cons]
    unfold gainsAsked at ih ⊢
    rw [List.filterMap_cons]
    cases hasked : step.gainAsked? kind with
    | none =>
      rw [hasked] at hgain
      exact ih _ (hgain.trans h)
    | some gain =>
      rw [hasked] at hgain
      rw [List.getLastD_cons]
      exact ih _ hgain

/-- The calls on buses in a run, step by step. -/
theorem mixing_history (hl : now.session.Listening) (steps : List (Step H)) :
    mixing ((now.history steps).flatMap Passage.exchanges) =
      steps.flatMap (Step.turns now.engine.mixer) := by
  induction steps generalizing now with
  | nil => rfl
  | cons step rest ih =>
    let p : Passage H := ⟨now, step⟩
    obtain ⟨hmixer, hturns⟩ := Passage.mixes (p := p) hl
    have hrest := ih (Passage.finish_listening (p := p) hl)
    have hsame : (Step.turns p.finish.engine.mixer : Step H → _) = Step.turns now.engine.mixer := by
      funext later
      refine Step.turns_congr (fun kind => ?_) later
      rw [hmixer]
      exact Step.mixed_node _ _ kind
    have hcons : (now.history (step :: rest)).flatMap Passage.exchanges =
        p.exchanges ++ (p.finish.history rest).flatMap Passage.exchanges := List.flatMap_cons
    rw [hcons, mixing_append, hturns, hrest, hsame, List.flatMap_cons]

theorem given_run {m : Mixer} {kind : BusKind} {node : BusNode} (h : m.Owns kind node)
    (steps : List (Step H)) :
    given node (steps.flatMap (Step.turns m)) = (gainsAsked kind steps).map Level.gain := by
  induction steps with
  | nil => rfl
  | cons step rest ih =>
    have hcons : gainsAsked kind (step :: rest) =
        (step.gainAsked? kind).toList ++ gainsAsked kind rest := by
      unfold gainsAsked
      rw [List.filterMap_cons]
      cases step.gainAsked? kind <;> rfl
    rw [List.flatMap_cons, given_append, Step.given_turns h, ih, hcons, List.map_append]

end Run

/-! ## 5. From the settings on -/

section Construction

variable {gains : Gains} {m : Mixer} {X : List Exchange}

theorem Construction.gain (h : Construction gains m X) (kind : BusKind) :
    m.gain kind = Level.gain (gains.get kind) := by
  cases h <;> simp [Mixer.gain, Bus.of]

/-- A node is given the gain of its bus when it is made. -/
theorem Construction.given (h : Construction gains m X) {kind : BusKind} {node : BusNode}
    (ho : m.Owns kind node) : SoundEngine.given node X = [gains.level kind] := by
  have hnode : (m.buses.get kind).node = some node := (ho kind).mpr rfl
  cases h with
  | unsupported | noContext =>
    rw [PerBus.get_of] at hnode
    cases hnode
  | context replies =>
    have howner : ∀ other, (replies other).toOption = some node ↔ other = kind := fun other => by
      have hother := ho other
      rwa [PerBus.get_of] at hother
    cases kind <;>
      simp [SoundEngine.given, Exchange.gives?, BusKind.all, List.filterMap_cons, howner]

end Construction

/-- The engine keeps this gain for the bus, and if the bus has a node of its own, it is the gain that
the node was given last. -/
def Situation.Shows (now : Situation H) (kind : BusKind) (gain : Single) : Prop :=
  now.engine.mixer.gain kind = gain ∧
    ∀ node, now.engine.mixer.Owns kind node →
      (given node (exchangesOf now.session.chronicle)).getLast? = some gain

theorem opening_construction (settings : Settings) (host : H.State) :
    let start : Situation H := .opening settings host
    Construction settings.gains start.engine.mixer
      (mixing (exchangesOf start.session.chronicle)) :=
  Conduct.building_mixing (opening_unfolds settings host).2

theorem owns_after {now : Situation H} (hl : now.session.Listening) (steps : List (Step H))
    {kind : BusKind} {node : BusNode} :
    (now.after steps).engine.mixer.Owns kind node ↔ now.engine.mixer.Owns kind node := by
  unfold Mixer.Owns
  simp only [node_after hl]

/-- The gains that a node was given in a run: the configured one, and those that were asked for. -/
theorem given_after (settings : Settings) (host : H.State) (steps : List (Step H)) {kind : BusKind}
    {node : BusNode} (ho : (Situation.opening settings host : Situation H).engine.mixer.Owns kind node) :
    let now := (Situation.opening settings host : Situation H).after steps
    given node (exchangesOf now.session.chronicle) =
      (settings.gains.get kind :: gainsAsked kind steps).map Level.gain := by
  intro now
  have hl := opening_listening (H := H) settings host
  have hbuilt := (opening_construction settings host).given ho
  rw [given_mixing] at hbuilt
  rw [trace_eq hl, given_append, hbuilt, ← given_mixing, mixing_history hl, given_run ho,
    List.map_cons]
  rfl

theorem shows_after (settings : Settings) (host : H.State) (steps : List (Step H))
    (kind : BusKind) :
    ((Situation.opening settings host : Situation H).after steps).Shows kind
      (Level.gain ((gainsAsked kind steps).getLastD (settings.gains.get kind))) := by
  have hl := opening_listening (H := H) settings host
  refine ⟨gain_after hl ((opening_construction settings host).gain kind) steps, fun node ho => ?_⟩
  rw [given_after settings host steps ((owns_after hl steps).mp ho), List.getLast?_map,
    List.getLast?_cons, List.getLastD_eq_getLast?]
  rfl

/-- **The buses mirror what was asked for.**  Over every host, from every configuration and through
every run:

* building the engine makes at most one attempt at a context, and in a context one at each bus, in
  their order and whatever comes of the others; a bus has a node if its attempt succeeded;
* context and nodes stay as they are then;
* a step that sets the gain of a bus gives it to the node of this bus, if there is one, in one call;
  no other step makes a call on contexts or buses, so the run makes no more of them than those;
* a node that one bus has was given the configured gain and then what was asked for that bus, each
  brought into its range;
* the engine keeps for each bus the last of these, and so does its node;
* a gain that is configured is shown just as one that is asked for at the start, whatever follows. -/
theorem buses_mirror (settings : Settings) (host : H.State) (steps : List (Step H)) :
    let start : Situation H := .opening settings host
    let now := start.after steps
    let building := mixing (exchangesOf start.session.chronicle)
    let trace := exchangesOf now.session.chronicle
    Construction settings.gains start.engine.mixer building ∧
    (now.engine.mixer.hasContext = start.engine.mixer.hasContext ∧
      ∀ kind, (now.engine.mixer.buses.get kind).node = (start.engine.mixer.buses.get kind).node) ∧
    (∀ p ∈ start.history steps, mixing p.exchanges = p.step.turns start.engine.mixer) ∧
    mixing trace = building ++ steps.flatMap (Step.turns start.engine.mixer) ∧
    (∀ kind node, start.engine.mixer.Owns kind node →
      given node trace = (settings.gains.get kind :: gainsAsked kind steps).map Level.gain) ∧
    (∀ kind, now.Shows kind
      (Level.gain ((gainsAsked kind steps).getLastD (settings.gains.get kind)))) ∧
    ∀ kind gain,
      let configured : Situation H := .opening (settings.withGain kind gain) host
      let set := start.next (.perform (.setGain kind gain))
      let last := (gainsAsked kind steps).getLastD gain
      (configured.after steps).Shows kind (Level.gain last) ∧
        (set.after steps).Shows kind (Level.gain last) := by
  intro start now building trace
  have hl : start.session.Listening := opening_listening settings host
  refine ⟨opening_construction settings host, ⟨hasContext_after hl steps, node_after hl steps⟩,
    fun p hp => ?_, ?_, fun kind node => given_after settings host steps,
    shows_after settings host steps, fun kind gain => ⟨?_, ?_⟩⟩
  · obtain ⟨before, rest, -, hstart⟩ := mem_history hp
    have hturns := (Passage.mixes (listening_of_mem_history hl hp)).2
    rw [hturns, hstart]
    exact Step.turns_congr (node_after hl before) p.step
  · change mixing (exchangesOf (start.after steps).session.chronicle) = _
    rw [trace_eq hl, mixing_append, mixing_history hl]
  -- the gain configured is clamped there, and clamped once more where it is set
  · have hshows := shows_after (H := H) (settings.withGain kind gain) host steps kind
    have hget : (settings.withGain kind gain).gains.get kind =
        gain.clamp (Level.whole 0) (Level.whole 1) := PerBus.get_set_self _ _ _
    have hlast : Level.gain ((gainsAsked kind steps).getLastD
        (gain.clamp (Level.whole 0) (Level.whole 1))) =
        Level.gain ((gainsAsked kind steps).getLastD gain) := by
      rw [List.getLastD_eq_getLast?, List.getLastD_eq_getLast?]
      cases (gainsAsked kind steps).getLast? with
      | none => exact Level.gain_clamp gain
      | some last => rfl
    rwa [hget, hlast] at hshows
  -- a gain set first is one more before the others asked for
  · have hshows := shows_after (H := H) settings host (.perform (.setGain kind gain) :: steps) kind
    have hasked : gainsAsked kind ((.perform (.setGain kind gain) : Step H) :: steps) =
        gain :: gainsAsked kind steps :=
      List.filterMap_cons_some (if_pos rfl)
    rwa [hasked, List.getLastD_cons] at hshows

/-- A stage gives the music a node of its own; it is told the gain that was configured, and silence for
the one that is not a number. -/
theorem buses_mirror_stage :
    let steps : List (Step Stage.host) :=
      [.perform (.setGain .effects (Level.whole 3)), .perform (.setGain .music .nan)]
    let start : Situation Stage.host := .opening .standard { script := {} }
    let now := start.after steps
    start.engine.mixer.Owns .music ⟨1⟩ ∧
    given ⟨1⟩ (exchangesOf now.session.chronicle) = [Gains.standard.level .music, .zero] ∧
    now.Shows .music .zero ∧ now.Shows .effects (Level.whole 1) := by
  intro steps start now
  have howns : start.engine.mixer.Owns .music ⟨1⟩ := by
    intro other
    cases other <;> decide
  obtain ⟨-, -, -, -, hgiven, hshows, -⟩ :=
    buses_mirror (H := Stage.host) .standard { script := {} } steps
  exact ⟨howns, hgiven .music ⟨1⟩ howns, hshows .music, hshows .effects⟩

end SoundEngine
