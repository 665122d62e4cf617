import SoundEngine.Proofs.Delivery
import SoundEngine.Proofs.Lookalikes

/-!
# Levels never influence control

How loud, how fast and from which side a sound is heard is nothing that the engine acts upon: it hands
these numbers on to the host, and that is all.  This module compares two runs that differ in nothing but
such numbers, over a host that does not act upon them either.

* §1 says which runs are compared, and what a host is that does not heed levels.
* §2 goes through what the engine does without naming a source, as §3 of `Proofs.Likeness` does for the
  rest, and puts the operations together.
* §3 takes both runs along: what corresponds before a step does so after it (`Corresponds.step`), from
  the building of the engine on.
-/

namespace SoundEngine

open Conduct Likeness

variable {H : Host} {nodes : Node → Node → Prop} {R : H.State → H.State → Prop}

/-! ## 1. Runs that differ in their levels -/

/-- Everything is the same but the levels; a host may name the nodes that it makes after them, so that
only some nodes correspond. -/
def Likeness.upToLevels (nodes : Node → Node → Prop) : Likeness := ⟨Eq, nodes, False⟩

/-- **The host does not heed levels.**  Two calls that differ in nothing but levels have the same answer,
except that a volume that is asked for can be another one, and report the same events; they lead to
states between which nothing but levels tells. -/
def Host.LevelBlind (H : Host) (nodes : Node → Node → Prop) (R : H.State → H.State → Prop) : Prop :=
  ∀ c c', (upToLevels nodes).Calls c c' → H.Matches (upToLevels nodes) R R c c'

/-- The two orders visit tracked effects in the same order, whatever their nodes are called. -/
def VisitOrder.Same (nodes : Node → Node → Prop) (order order' : VisitOrder) : Prop :=
  ∀ effects effects', List.Forall₂ (upToLevels nodes).Effects effects effects' →
    List.Forall₂ (upToLevels nodes).Effects (order.arrange effects) (order'.arrange effects')

/-- The two operations differ in nothing but levels.  Requests for effects may have any volume, pitch and
pan, and a bus may be given any gain; a request for music has no level, and is the same in both. -/
inductive Operation.UpToLevels (nodes : Node → Node → Prop) : Operation → Operation → Prop
  | playEffect {request request' : EffectRequest} (h : request'.name = request.name) :
      UpToLevels nodes (.playEffect request) (.playEffect request')
  | playMusic (request : MusicRequest) : UpToLevels nodes (.playMusic request) (.playMusic request)
  | stopMusic : UpToLevels nodes .stopMusic .stopMusic
  | stopAll {order order' : VisitOrder} (h : order.Same nodes order') :
      UpToLevels nodes (.stopAll order) (.stopAll order')
  | drain : UpToLevels nodes .drain .drain
  | setGain (kind : BusKind) (gain gain' : Single) :
      UpToLevels nodes (.setGain kind gain) (.setGain kind gain')
  | unlock (patience : Nat) : UpToLevels nodes (.unlock patience) (.unlock patience)
  | isUnlocked : UpToLevels nodes .isUnlocked .isUnlocked

/-- The two steps differ in nothing but levels.  While the engine rests, the hosts may change in different
ways, as long as they cannot be told apart afterwards, and report the same events. -/
inductive Step.UpToLevels (nodes : Node → Node → Prop) (R : H.State → H.State → Prop) :
    Step H → Step H → Prop
  | perform {op op' : Operation} (h : op.UpToLevels nodes op') :
      UpToLevels nodes R (.perform op) (.perform op')
  | meanwhile {change change' : H.State → H.State} (notices : List Notice)
      (h : ∀ st st', R st st' → R (change st) (change' st')) :
      UpToLevels nodes R (.meanwhile change notices) (.meanwhile change' notices)

/-- The two engines differ in nothing but levels: they count alike, their buses have the same nodes, and
they hold the same sources, by corresponding routes. -/
structure Engine.UpToLevels (nodes : Node → Node → Prop) (e e' : Engine) : Prop where
  base : e'.settings.base = e.settings.base
  page : e'.page = e.page
  supply : e'.supply = e.supply
  mixer : (upToLevels nodes).Mixers e.mixer e'.mixer
  effects : List.Forall₂ (upToLevels nodes).Effects e.effects e'.effects
  music : Option.Rel (upToLevels nodes).Tracks e.music e'.music

/-- The two answers differ in nothing but the gain that a bus was given.  No other answer of an operation
tells a level. -/
inductive Answer.UpToLevels : Answer → Answer → Prop
  | refl (answer : Answer) : UpToLevels answer answer
  | gain (gain gain' : Single) : UpToLevels (.gain gain) (.gain gain')

/-- The two passages differ in nothing but levels: they consume the same events, make the same calls and
give the same answer. -/
structure Passage.UpToLevels (nodes : Node → Node → Prop) (p p' : Passage H) : Prop where
  consumed : p'.consumed = p.consumed
  exchanges : List.Forall₂ (upToLevels nodes).Exchanges p.exchanges p'.exchanges
  answer : Option.Rel Answer.UpToLevels p.answer p'.answer

/-! ## 2. What the engine does -/

theorem level_any (x y : Single) : (upToLevels nodes).Level x y := False.elim

theorem notices_eq {ns ns' : List Notice} (h : List.Forall₂ (upToLevels nodes).Notices ns ns') :
    ns' = ns := by
  induction h with
  | nil => rfl
  | @cons n n' ns ns' hn _ ih =>
    obtain ⟨hsource, hevent⟩ := hn
    have hsame : n'.source = n.source := Eq.symm hsource
    obtain ⟨source, event⟩ := n
    obtain ⟨source', event'⟩ := n'
    obtain rfl : source' = source := hsame
    obtain rfl : event' = event := hevent
    rw [ih]

theorem outcome_eq {outcome outcome' : MusicOutcome}
    (h : (upToLevels nodes).MusicOutcomes outcome outcome') : outcome' = outcome := by
  cases h with
  | started h attached start =>
    have hsame : _ = _ := h
    rw [hsame]
  | _ => rfl

theorem biUnique_upToLevels : Relator.BiUnique (upToLevels nodes).source :=
  ⟨fun _ _ _ h h' => h.trans h'.symm, fun _ _ _ h h' => h.symm.trans h'⟩

section Operations

variable (hH : H.LevelBlind nodes R)

include hH

theorem Host.LevelBlind.follows : H.Follows (upToLevels nodes) R R :=
  ⟨fun h _ => hH _ _ h, fun h _ => hH _ _ h, id⟩

theorem Host.LevelBlind.asks {c c' : Call} (h : (upToLevels nodes).Calls c c') :
    Mates (upToLevels nodes) R R
      (fun reply reply' => (upToLevels nodes).Exchanges ⟨c, reply⟩ ⟨c', reply'⟩)
      (ask c : HostM H c.Reply) (ask c') :=
  mates_ask (hH _ _ h)

theorem setGain_mates {m m' : Mixer} (hm : (upToLevels nodes).Mixers m m') (kind : BusKind)
    (gain gain' : Single) :
    Mates (upToLevels nodes) R R (upToLevels nodes).Mixers (m.setGain kind gain : HostM H Mixer)
      (m'.setGain kind gain') := by
  have hnode := (hm.buses kind).node
  have hset {b b' : Bus} (hb : (upToLevels nodes).Buses b b') : (upToLevels nodes).Mixers
      { m with buses := m.buses.set kind b } { m' with buses := m'.buses.set kind b' } := by
    refine ⟨hm.hasContext, fun other => ?_⟩
    by_cases ho : other = kind
    · subst ho
      simpa using hb
    · simpa [PerBus.get_set_of_ne _ _ ho] using hm.buses other
  unfold Mixer.setGain Bus.setGain
  have hbus : (upToLevels nodes).Buses (Bus.of gain (m.buses.get kind).node)
      (Bus.of gain' (m'.buses.get kind).node) := ⟨hnode, level_any _ _⟩
  refine mates_bind (V := (upToLevels nodes).Buses) ?_ fun b b' hb => mates_pure (hset hb)
  rw [hnode] at hbus ⊢
  dsimp only
  cases hn : (m.buses.get kind).node with
  | none =>
    rw [hn] at hbus
    simp only [Bus.of]
    exact mates_pure hbus
  | some node =>
    rw [hn] at hbus
    simp only [Bus.of]
    refine mates_bind (hH.asks ⟨_, _, .setBusGain node (level_any _ _)⟩) fun _ _ _ => ?_
    exact mates_pure hbus

theorem awaitResume_mates (patience : Nat) :
    Mates (upToLevels nodes) R R Eq (Engine.awaitResume patience : HostM H _)
      (Engine.awaitResume patience) := by
  induction patience with
  | zero => exact mates_pure rfl
  | succ patience ih =>
    unfold Engine.awaitResume
    refine mates_bind (hH.asks ⟨_, _, .awaitResume none⟩) fun reply _ hreply => ?_
    cases hreply
    cases reply with
    | some result => exact mates_pure rfl
    | none => exact ih

theorem isRunning_mates :
    Mates (upToLevels nodes) R R Eq (Engine.isRunning : HostM H Bool) Engine.isRunning := by
  refine mates_bind (hH.asks ⟨_, _, .contextState .running⟩) fun state _ hreply => ?_
  cases hreply
  exact mates_pure rfl

theorem unlock_mates {e e' : Engine} (he : e'.mixer.hasContext = e.mixer.hasContext)
    (patience : Nat) :
    Mates (upToLevels nodes) R R Eq (e.unlock patience : HostM H _) (e'.unlock patience) := by
  have hrunning : Mates (upToLevels nodes) R R Eq (some <$> Engine.isRunning : HostM H (Option Bool))
      (some <$> Engine.isRunning) :=
    mates_map (mates_mono (isRunning_mates hH) fun _ _ h => congrArg some h)
  unfold Engine.unlock
  rw [he]
  split
  · exact mates_pure rfl
  split
  · exact mates_pure rfl
  refine mates_bind (isRunning_mates hH) fun running _ hsame => ?_
  subst hsame
  split
  · exact hrunning
  refine mates_bind (hH.asks ⟨_, _, .resume⟩) fun _ _ _ => ?_
  refine mates_bind (awaitResume_mates hH patience) fun result _ hsame => ?_
  subst hsame
  match result with
  | none => exact mates_pure rfl
  | some (.ok ()) => exact hrunning
  | some (.error failure) => exact mates_bind (mates_log _ _) fun _ _ _ => hrunning

theorem isUnlocked_mates {e e' : Engine} (he : e'.mixer.hasContext = e.mixer.hasContext) :
    Mates (upToLevels nodes) R R Eq (e.isUnlocked : HostM H Bool) e'.isUnlocked := by
  unfold Engine.isUnlocked
  rw [he]
  split
  · exact isRunning_mates hH
  · exact mates_pure rfl

theorem createBus_mates (kind : BusKind) (gain gain' : Single) :
    Mates (upToLevels nodes) R R (upToLevels nodes).Buses (Bus.create kind gain : HostM H Bus)
      (Bus.create kind gain') := by
  unfold Bus.create
  refine mates_bind (hH.asks ⟨_, _, .createBus (level_any _ _) (.ok ⟨0⟩)⟩) fun reply _ hreply => ?_
  cases hreply
  cases reply with
  | ok node => exact mates_pure ⟨rfl, level_any _ _⟩
  | error failure => exact mates_bind (mates_log _ _) fun _ _ _ => mates_pure ⟨rfl, level_any _ _⟩

theorem buildMixer_mates (hasContext : Bool) (gains gains' : Gains) :
    Mates (upToLevels nodes) R R (upToLevels nodes).Mixers
      (Mixer.build hasContext gains : HostM H Mixer) (Mixer.build hasContext gains') := by
  unfold Mixer.build
  cases hasContext with
  | false => exact mates_pure ⟨rfl, fun kind => by simpa using ⟨rfl, level_any _ _⟩⟩
  | true =>
    refine mates_bind (createBus_mates hH .effects _ _) fun _ _ heffects => ?_
    refine mates_bind (createBus_mates hH .music _ _) fun _ _ hmusic => ?_
    refine mates_bind (createBus_mates hH .ambience _ _) fun _ _ hambience => ?_
    refine mates_pure ⟨rfl, fun kind => ?_⟩
    cases kind
    · exact heffects
    · exact hmusic
    · exact hambience

/-- **Building an engine** does not depend on the gains. -/
theorem build_mates {settings settings' : Settings} (h : settings'.base = settings.base) :
    Mates (upToLevels nodes) R R (Engine.UpToLevels nodes) (Engine.build settings : HostM H Engine)
      (Engine.build settings') := by
  have hcontext : Mates (upToLevels nodes) R R Eq (Engine.findContext : HostM H Bool)
      Engine.findContext := by
    unfold Engine.findContext
    refine mates_bind (hH.asks ⟨_, _, .supportsGraph true⟩) fun graph _ hreply => ?_
    cases hreply
    cases graph with
    | false => exact mates_pure rfl
    | true =>
      refine mates_mono (hH.asks ⟨_, _, .createContext true⟩) fun _ _ hreply => ?_
      cases hreply
      rfl
  unfold Engine.build
  refine mates_bind (hH.asks ⟨_, _, .pageAddress none⟩) fun page _ hreply => ?_
  cases hreply
  refine mates_bind hcontext fun hasContext _ hsame => ?_
  subst hsame
  have hmixer := buildMixer_mates hH hasContext settings.gains settings'.gains
  have hbuilt {m m' : Mixer} (hm : (upToLevels nodes).Mixers m m') :
      Engine.UpToLevels nodes ⟨settings, page, {}, m, [], none⟩
        ⟨settings', page, {}, m', [], none⟩ :=
    ⟨h, rfl, rfl, hm, .nil, .none⟩
  cases hasContext with
  | true => exact mates_bind hmixer fun _ _ hm => mates_pure (hbuilt hm)
  | false =>
    refine mates_bind (mates_log _ _) fun _ _ _ => ?_
    exact mates_bind hmixer fun _ _ hm => mates_pure (hbuilt hm)

end Operations

/-- **Playing music** comes to the same. -/
theorem playMusic_mates (hH : H.LevelBlind nodes R) {music music' : Music}
    (h : Option.Rel (upToLevels nodes).Tracks music music') (supply : Supply) {m m' : Mixer}
    (hm : (upToLevels nodes).Mixers m m') (page : Option Url) (base : String)
    (request : MusicRequest) :
    Mates (upToLevels nodes) R R
      (fun r r' => r'.1 = r.1 ∧ r'.2.1 = r.2.1 ∧
        Option.Rel (upToLevels nodes).Tracks r.2.2 r'.2.2)
      (music.play supply m page base request : HostM H _)
      (music'.play supply m' page base request) := by
  have hbegin (address : String) : Mates (upToLevels nodes) R R
      (fun r r' => r'.1 = r.1 ∧ r'.2.1 = r.2.1 ∧
        Option.Rel (upToLevels nodes).Tracks r.2.2 r'.2.2)
      (Music.begin supply m page address request : HostM H _)
      (Music.begin supply m' page address request) := by
    have hnext : (upToLevels nodes).source supply.nextId supply.nextId := Eq.refl _
    refine mates_mono (begin_mates hH.follows hnext hm page address request) fun _ _ hbegun => ?_
    cases hbegun with
    | failed failure => exact ⟨rfl, rfl, .none⟩
    | started h hroute attached start => exact ⟨rfl, rfl, .some ⟨h, rfl, rfl, hroute⟩⟩
  unfold Music.play
  cases Address.resolve request.name base with
  | none => exact mates_pure ⟨rfl, rfl, h⟩
  | some address =>
    cases h with
    | none => exact mates_bind (stopMusic_mates hH.follows .none) fun _ _ _ => hbegin address
    | @some t t' ht =>
      have hanswers : t'.answers request = t.answers request := by
        unfold Track.answers
        rw [ht.name, ht.looping]
      cases hans : t.answers request with
      | true =>
        rw [hans] at hanswers
        simp only [Option.filter, hans, hanswers, if_true]
        refine mates_bind (resume_mates hH.follows ht.source) fun _ _ houtcome => ?_
        exact mates_pure ⟨outcome_eq houtcome, rfl, .some ht⟩
      | false =>
        rw [hans] at hanswers
        simp only [Option.filter, hans, hanswers, Bool.false_eq_true, if_false]
        refine mates_bind (stopMusic_mates hH.follows (.some ht)) fun _ _ _ => ?_
        exact hbegin address

section Operations

variable (hH : H.LevelBlind nodes R) {e e' : Engine} (he : e.UpToLevels nodes e')

include hH he

/-- **Playing an effect** comes to the same. -/
theorem effect_mates {request request' : EffectRequest} (hname : request'.name = request.name) (n : Nat) :
    Mates (upToLevels nodes) R R
      (fun r r' => r.1.UpToLevels r'.1 ∧ r.2.UpToLevels nodes r'.2)
      (e.act n (.playEffect request) : HostM H _) (e'.act n (.playEffect request')) := by
  have hnext : (upToLevels nodes).source e.supply.nextId e'.supply.nextId :=
    congrArg Supply.nextId he.supply.symm
  have hbase : e'.settings.effectiveBase = e.settings.effectiveBase :=
    congrArg Address.baseOrStandard he.base
  have hr : (upToLevels nodes).Requests request request' :=
    ⟨hname, level_any _ _, level_any _ _, level_any _ _⟩
  dsimp only [Engine.act]
  rw [hbase, he.page]
  cases haddress : Address.resolve request.name e.settings.effectiveBase with
  | none =>
    rw [Effects.play_skipped haddress, Effects.play_skipped (hname ▸ haddress)]
    exact mates_pure ⟨.refl _, he.base, rfl, he.supply, he.mixer, he.effects, he.music⟩
  | some address =>
    have hplay := playEffect_mates hH.follows hnext e.effects e'.effects he.mixer e.page hr haddress
    refine mates_bind hplay fun _ _ hplayed => ?_
    obtain ⟨base, page, supply, mixer, effects, music⟩ := he
    cases hplayed with
    | failed failure =>
      exact mates_pure ⟨.refl _, base, rfl, congrArg Supply.spend supply, mixer, effects, music⟩
    | played h hroute attached start =>
      have hnew : (upToLevels nodes).Effects ⟨e.supply.nextId, _⟩ ⟨e'.supply.nextId, _⟩ :=
        ⟨h, hroute⟩
      have heffects := insert_mates biUnique_upToLevels effects hnew
      have hid : e'.supply.nextId = e.supply.nextId := Eq.symm h
      rw [hid] at heffects ⊢
      exact mates_pure ⟨.refl _, base, rfl, congrArg Supply.advance supply, mixer, heffects, music⟩

/-- **An operation**, apart from the drain. -/
theorem act_mates {op op' : Operation} (hop : op.UpToLevels nodes op') (n : Nat) :
    Mates (upToLevels nodes) R R
      (fun r r' => r.1.UpToLevels r'.1 ∧ r.2.UpToLevels nodes r'.2)
      (e.act n op : HostM H _) (e'.act n op') := by
  -- an operation keeps its shape, so only its levels and the order of the visits can differ
  cases hop with
  | playEffect hname => exact effect_mates hH he hname n
  | playMusic request =>
    have hbase : e'.settings.effectiveBase = e.settings.effectiveBase :=
      congrArg Address.baseOrStandard he.base
    have hplay := playMusic_mates hH he.music e.supply he.mixer e.page
      e.settings.effectiveBase request
    unfold Engine.act
    rw [hbase, he.page, he.supply]
    refine mates_bind hplay fun r r' hsame => ?_
    obtain ⟨outcome, supply, music⟩ := r
    obtain ⟨outcome', supply', music'⟩ := r'
    obtain ⟨rfl, rfl, hmusic⟩ := hsame
    exact mates_pure ⟨.refl _, he.base, rfl, rfl, he.mixer, he.effects, hmusic⟩
  | stopMusic =>
    refine mates_bind (stopMusic_mates hH.follows he.music) fun _ _ hleft => ?_
    obtain ⟨rfl, rfl⟩ := hleft
    exact mates_pure ⟨.refl _, he.base, he.page, he.supply, he.mixer, he.effects, .none⟩
  | stopAll horder =>
    refine mates_bind (stopMusic_mates hH.follows he.music) fun _ _ hleft => ?_
    obtain ⟨rfl, rfl⟩ := hleft
    refine mates_bind (stopEffects_mates hH.follows (horder _ _ he.effects)) fun _ _ hleft => ?_
    obtain ⟨rfl, rfl⟩ := hleft
    exact mates_pure ⟨.refl _, he.base, he.page, he.supply, he.mixer, .nil, .none⟩
  | drain => exact mates_pure ⟨.refl _, he⟩
  | setGain kind gain gain' =>
    have hset : Mates (upToLevels nodes) R R (Engine.UpToLevels nodes)
        (e.setGain kind gain : HostM H Engine) (e'.setGain kind gain') :=
      mates_bind (setGain_mates hH he.mixer kind gain gain') fun _ _ hm =>
        mates_pure ⟨he.base, he.page, he.supply, hm, he.effects, he.music⟩
    exact mates_bind hset fun _ _ hnew => mates_pure ⟨.gain _ _, hnew⟩
  | unlock patience =>
    refine mates_bind (unlock_mates hH he.mixer.hasContext patience) fun _ _ hsame => ?_
    subst hsame
    exact mates_pure ⟨.refl _, he⟩
  | isUnlocked =>
    refine mates_bind (isUnlocked_mates hH he.mixer.hasContext) fun _ _ hsame => ?_
    subst hsame
    exact mates_pure ⟨.refl _, he⟩

end Operations

/-! ## 3. Both runs -/

/-- The two situations differ in nothing but levels: the same events wait, and the hosts cannot be told
apart by anything else. -/
structure Situation.UpToLevels (nodes : Node → Node → Prop) (R : H.State → H.State → Prop)
    (a b : Situation H) : Prop where
  engine : a.engine.UpToLevels nodes b.engine
  host : R a.session.host b.session.host
  waiting : ∃ notices, a.session.mailbox = .listening notices ∧
    b.session.mailbox = .listening notices

section Runs

variable (hH : H.LevelBlind nodes R) {a b : Situation H}

include hH

/-- **A step in both runs** differs in nothing but levels, and so do the situations after it. -/
theorem Situation.UpToLevels.step (h : a.UpToLevels nodes R b) {s s' : Step H}
    (hs : s.UpToLevels nodes R s') :
    (Passage.mk a s).UpToLevels nodes (Passage.mk b s') ∧
      (a.next s).UpToLevels nodes R (b.next s') := by
  obtain ⟨hengine, hhost, waiting, hw, hw'⟩ := h
  cases hs with
  | @perform op op' hop =>
    have hdrains : drains op' = drains op := by cases hop <;> rfl
    have hconsumed : (Passage.mk b (.perform op')).consumed = (Passage.mk a (.perform op)).consumed := by
      change Conduct.consumed op' b.session = Conduct.consumed op a.session
      unfold Conduct.consumed
      rw [hdrains, hw, hw']
    have hheeded : (heeded a.engine (Passage.mk a (.perform op)).consumed).UpToLevels nodes
        (heeded b.engine (Passage.mk b (.perform op')).consumed) := by
      have hnotices (notices : List Notice) :
          List.Forall₂ (upToLevels nodes).Notices notices notices :=
        List.forall₂_same.mpr fun _ _ => ⟨Eq.refl _, rfl⟩
      rw [hconsumed]
      exact { hengine with
        effects := heeding_mates biUnique_upToLevels hengine.effects (hnotices _) }
    obtain ⟨⟨answer, answer', ha, ha', hanswer, hnext⟩, hexchanges, hend, notices, notices', hnotices,
      hmailbox, hmailbox'⟩ := Situation.mates hw hw' (act_mates hH hheeded hop waiting.length) hhost
    refine ⟨⟨hconsumed, hexchanges, ?_⟩, hnext, hend, _, hmailbox, ?_⟩
    · rw [ha, ha']
      exact .some hanswer
    · rw [← notices_eq hnotices, ← hdrains]
      exact hmailbox'
  | @meanwhile change change' notices hchange =>
    have hl : a.session.Listening := ⟨waiting, hw⟩
    have hl' : b.session.Listening := ⟨waiting, hw'⟩
    obtain ⟨hanswer, hp, hsession⟩ := Passage.rested (p := ⟨a, .meanwhile change notices⟩) rfl
    obtain ⟨hanswer', hq, hsession'⟩ := Passage.rested (p := ⟨b, .meanwhile change' notices⟩) rfl
    refine ⟨⟨rfl, ?_, ?_⟩, ?_, ?_, waiting ++ notices, ?_, ?_⟩
    · rw [Passage.exchanges_rested hl rfl, Passage.exchanges_rested hl' rfl]
      exact .nil
    · rw [hanswer, hanswer']
      exact .none
    · exact hengine
    · change R (SoundEngine.meanwhile change notices a.session).2.host
        (SoundEngine.meanwhile change' notices b.session).2.host
      rw [Passage.meanwhile_host, Passage.meanwhile_host]
      exact hchange _ _ hhost
    · exact (Passage.meanwhile_mailbox _ hw change notices).1
    · exact (Passage.meanwhile_mailbox _ hw' change' notices).1

/-- **The two runs side by side** differ in nothing but levels to the end. -/
theorem Situation.UpToLevels.run (h : a.UpToLevels nodes R b) {steps steps' : List (Step H)}
    (hsteps : List.Forall₂ (Step.UpToLevels nodes R) steps steps') :
    List.Forall₂ (Passage.UpToLevels nodes) (a.history steps) (b.history steps') ∧
      (a.after steps).UpToLevels nodes R (b.after steps') := by
  induction hsteps generalizing a b with
  | nil => exact ⟨.nil, h⟩
  | cons hs _ ih =>
    obtain ⟨hpassage, hnext⟩ := h.step hH hs
    obtain ⟨hrest, hend⟩ := ih hnext
    exact ⟨.cons hpassage hrest, hend⟩

/-- Engines that were built with different gains. -/
theorem opening_upToLevels {settings settings' : Settings} (hbase : settings'.base = settings.base)
    {host host' : H.State} (hhost : R host host') :
    let start : Situation H := .opening settings host
    let start' : Situation H := .opening settings' host'
    start.UpToLevels nodes R start' ∧
      List.Forall₂ (upToLevels nodes).Exchanges (exchangesOf start.session.chronicle)
        (exchangesOf start'.session.chronicle) := by
  intro start start'
  obtain ⟨hengine, L, L', hL, hL', hexchanges, hnotices, hend⟩ :=
    build_mates hH hbase (Session.fresh host) (Session.fresh host') hhost
  refine ⟨⟨hengine, hend, _, hL.mailbox rfl, ?_⟩, ?_⟩
  · have hmailbox := hL'.mailbox rfl
    rw [notices_eq hnotices] at hmailbox
    exact hmailbox
  · have hchronicle : start.session.chronicle = L := hL.chronicle (Session.fresh_listening host)
    have hchronicle' : start'.session.chronicle = L' :=
      hL'.chronicle (Session.fresh_listening host')
    rw [hchronicle, hchronicle']
    exact hexchanges

end Runs

/-- **Levels never influence control.**  Let two runs differ in nothing but levels: in the gains that the
engines are built with and that buses are given later, and in volume, pitch and pan of the requests,
whether they are given or not.  Over a host that does not heed levels:

* passage by passage the runs consume the same events, make the same calls and give the same answers, up
  to levels;
* so the traces of all calls are the same, except for the levels in `createBus`, `setBusGain`,
  `setVolume`, `setRate` and `createPanner`, and for the volumes that the host tells;
* and so are the engines: the supply of sources, the tracked effects, the track in the slot, the context
  and the nodes of the buses.

`R` relates the states of the host between which only levels tell, and `nodes` the nodes whose names
differ in nothing else; both can be equality. -/
theorem levels_unheeded (hH : H.LevelBlind nodes R) {settings settings' : Settings}
    (hbase : settings'.base = settings.base) {host host' : H.State} (hhost : R host host')
    {steps steps' : List (Step H)}
    (hsteps : List.Forall₂ (Step.UpToLevels nodes R) steps steps') :
    let start : Situation H := .opening settings host
    let start' : Situation H := .opening settings' host'
    let now := start.after steps
    let now' := start'.after steps'
    List.Forall₂ (Passage.UpToLevels nodes) (start.history steps) (start'.history steps') ∧
    List.Forall₂ (upToLevels nodes).Exchanges (exchangesOf now.session.chronicle)
      (exchangesOf now'.session.chronicle) ∧
    now.engine.UpToLevels nodes now'.engine := by
  intro start start' now now'
  obtain ⟨hstart, hbuilt⟩ := opening_upToLevels hH hbase hhost
  obtain ⟨hhistory, hend⟩ := hstart.run hH hsteps
  refine ⟨hhistory, ?_, hend.engine⟩
  rw [trace_eq (opening_listening settings host), trace_eq (opening_listening settings' host')]
  refine List.rel_append hbuilt ?_
  refine List.rel_flatMap hhistory fun p p' hp => ?_
  exact hp.exchanges

/-! ## 4. A stage -/

namespace Stage

/-- Nodes are called alike in both runs, except that panners are named after their pan. -/
def Panned (node node' : Node) : Prop :=
  node' = node ∨ ∃ pan pan', node = pannerNode pan ∧ node' = pannerNode pan'

/-- What a stage knows besides its script and its sources. -/
def State.rest (s : State) : ContextState × Nat × Nat := (s.context, s.busCount, s.waiting)

/-- The two stages differ in nothing but the levels of their sources. -/
structure UpToLevels (s s' : State) : Prop where
  script : s'.script = s.script
  rest : s'.rest = s.rest
  media : ∀ id, Lookalike (upToLevels Panned) id id s s'

/-- A call on a source leaves the rest of the stage alone. -/
theorem rest_answer {c : Call} (hc : c.source?.isSome = true) (s : State) :
    State.rest (host.answer c s).2.2 = s.rest := by
  obtain ⟨id, hid⟩ := Option.isSome_iff_exists.mp hc
  obtain ⟨deed, hdeed, hlocal⟩ := answer_local hid s
  rw [hlocal s (.refl id s)]
  cases hdeed <;> rfl

variable {c c' : Call} {s s' : State}

/-- A call on no source is answered by the script and by the rest of the stage. -/
theorem answer_unnamed (hc : (upToLevels Panned).Calls c c') (hnone : c.source? = none)
    (hscript : s'.script = s.script) (hrest : s'.rest = s.rest) :
    (upToLevels Panned).Exchanges ⟨c, (host.answer c s).1⟩ ⟨c', (host.answer c' s').1⟩ ∧
      List.Forall₂ (upToLevels Panned).Notices (host.answer c s).2.1 (host.answer c' s').2.1 ∧
      State.rest (host.answer c' s').2.2 = State.rest (host.answer c s).2.2 := by
  obtain ⟨script, context, busCount, waiting, media⟩ := s
  obtain ⟨script', context', busCount', waiting', media'⟩ := s'
  obtain rfl : script' = script := hscript
  obtain ⟨rfl, rfl, rfl⟩ : context' = context ∧ busCount' = busCount ∧ waiting' = waiting := by
    simpa [State.rest] using hrest
  obtain ⟨_, _, hc⟩ := hc
  cases hc with
  | createSource | sourceAddress | sourceVolume | isPaused | setVolume | setRate | setLooping
  | setPreload | play | pause | seek | wrapSource => cases hnone
  | pageAddress => exact ⟨.pageAddress _, .nil, rfl⟩
  | supportsGraph => exact ⟨.supportsGraph _, .nil, rfl⟩
  | createContext => exact ⟨.createContext _, .nil, rfl⟩
  | createBus hgain => exact ⟨.createBus hgain _, .nil, rfl⟩
  | contextState => exact ⟨.contextState _, .nil, rfl⟩
  | resume => exact ⟨.resume, .nil, rfl⟩
  | awaitResume =>
    cases waiting' with
    | succ n => exact ⟨.awaitResume _, .nil, rfl⟩
    | zero =>
      simp only [host, awaitResume]
      cases script'.resumeFailure with
      | some failure => exact ⟨.awaitResume _, .nil, rfl⟩
      | none => exact ⟨.awaitResume _, .nil, rfl⟩
  | supportsStereoPan => exact ⟨.supportsStereoPan _, .nil, rfl⟩
  | createPanner hpan =>
    simp only [host]
    cases script'.pannerFailure with
    | some failure => exact ⟨.createPanner hpan (.error _), .nil, rfl⟩
    | none => exact ⟨.createPanner hpan (.ok (.inr ⟨_, _, rfl, rfl⟩)), .nil, rfl⟩
  | connect hstart hfinish => exact ⟨.connect hstart hfinish _, .nil, rfl⟩
  | connectBus hstart bus => exact ⟨.connectBus hstart bus _, .nil, rfl⟩
  | setBusGain bus hgain => exact ⟨.setBusGain bus hgain, .nil, rfl⟩

/-- **A stage does not heed levels.** -/
theorem levelBlind : host.LevelBlind Panned UpToLevels := by
  intro c c' hc s s' h
  have hsource : c'.source? = c.source? := by
    have hrel := hc.source?
    generalize c.source? = source, c'.source? = source' at hrel ⊢
    cases hrel with
    | none => rfl
    | some hid => exact congrArg some (Eq.symm hid)
  have hasked {id : SourceId} (hid : c.source? = some id) :=
    (h.media id).answer (.inl rfl) (.inl rfl) hc hid (hsource.trans hid)
  have hmedia (id : SourceId) :
      Lookalike (upToLevels Panned) id id (host.answer c s).2.2 (host.answer c' s').2.2 := by
    by_cases hid : c.source? = some id
    · exact (hasked hid).media
    · obtain ⟨hscript, hfound⟩ := sameSource_answer hid s
      obtain ⟨hscript', hfound'⟩ := sameSource_answer (hsource ▸ hid) s'
      refine ⟨(hscript'.trans h.script).trans hscript.symm, ?_⟩
      rw [hfound, hfound']
      exact (h.media id).media
  have hscript := (hmedia ⟨0⟩).script
  cases hid : c.source? with
  | some id =>
    have hrest := rest_answer (Option.isSome_of_eq_some hid) s
    have hrest' := rest_answer (Option.isSome_of_eq_some (hsource.trans hid)) s'
    exact ⟨(hasked hid).exchange, (hasked hid).notices, hscript,
      (hrest'.trans h.rest).trans hrest.symm, hmedia⟩
  | none =>
    obtain ⟨hexchange, hnotices, hrest⟩ := answer_unnamed hc hid h.script h.rest
    exact ⟨hexchange, hnotices, hscript, hrest, hmedia⟩

theorem upToLevels_empty (script : Script) : UpToLevels { script } { script } :=
  ⟨rfl, rfl, fun _ => ⟨rfl, .none⟩⟩

end Stage

/-- On a stage where sounds end as soon as they start: the second run plays in silence, from nowhere and
through a bus whose gain is no number, and the engine does the very same. -/
theorem levels_unheeded_stage :
    let chime : EffectRequest := { name := "chime" }
    let hush : EffectRequest := { name := "chime", volume := some .zero, pan := some .nan }
    let march : Step Stage.host := .perform (.playMusic { name := "march" })
    let stop : Step Stage.host := .perform (.stopAll .oldestFirst)
    let steps : List (Step Stage.host) :=
      [.perform (.playEffect chime), .perform (.setGain .effects (Level.whole 1)), march, stop]
    let steps' : List (Step Stage.host) :=
      [.perform (.playEffect hush), .perform (.setGain .effects .nan), march, stop]
    let host : Stage.host.State := { script := { endOnPlay := true } }
    let start : Situation Stage.host := .opening .standard host
    let start' : Situation Stage.host := .opening (Settings.standard.withGain .music .zero) host
    let trace := exchangesOf (start.after steps).session.chronicle
    let trace' := exchangesOf (start'.after steps').session.chronicle
    List.Forall₂ (upToLevels Stage.Panned).Exchanges trace trace' ∧
      trace'.map Exchange.call ≠ trace.map Exchange.call ∧
      (start'.history steps').map Passage.answer ≠ (start.history steps).map Passage.answer ∧
      (start'.after steps').engine.supply = (start.after steps).engine.supply := by
  intro chime hush march stop steps steps' host start start' trace trace'
  have hsteps : List.Forall₂ (Step.UpToLevels Stage.Panned Stage.UpToLevels) steps steps' := by
    refine .cons (.perform (.playEffect rfl)) (.cons (.perform (.setGain _ _ _)) ?_)
    refine .cons (.perform (.playMusic _)) (.cons (.perform (.stopAll fun _ _ h => h)) .nil)
  have hbase : (Settings.standard.withGain .music .zero).base = Settings.standard.base := rfl
  have hcalls : trace'.map Exchange.call ≠ trace.map Exchange.call := by decide +kernel
  have hanswers : (start'.history steps').map Passage.answer ≠
      (start.history steps).map Passage.answer := by decide +kernel
  have hsame := levels_unheeded (H := Stage.host) Stage.levelBlind hbase
    (Stage.upToLevels_empty { endOnPlay := true }) hsteps
  clear_value steps steps'
  exact ⟨hsame.2.1, hcalls, hanswers, hsame.2.2.supply⟩

end SoundEngine
