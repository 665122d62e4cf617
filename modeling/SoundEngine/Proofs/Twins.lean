import SoundEngine.Proofs.History

/-!
# Two sessions side by side

What an action of the engine does is settled by what the host answers, and by nothing else in the
session: neither by what has happened before nor by the events that wait.  So when two sessions have
hosts that cannot be told apart, an action does the same in both.

* §1 says what "cannot be told apart" means: a relation between states of the host that its answers
  RESPECT.  `Twins R m` says that `m`, from two sessions whose hosts are related, gives one result,
  leaves one list of entries, and ends with hosts that are related again.
* §2 has a rule for each way of building an action, as in `Proofs.Chronicle`.
* §3 goes through the functions of the engine, and §4 through its operations.  Only two of them look at
  the context, so the others need no more than that the calls that are not about it are respected.  An
  operation that drains is split there into the drain, which does depend on the session, and the rest.
* §5 puts the two parts together again: after the drain every operation SETS OUT as an engine that has
  heeded what was drained, in a session of which all is known that two runs are compared by.
-/

namespace SoundEngine

variable {H : Host} {α β : Type} {R : H.State → H.State → Prop}

/-! ## 1. Hosts that cannot be told apart -/

/-- In related states the host answers the call in the same way, and goes on to related states: whoever
makes the call cannot tell from it which of the two states it was.  Of the events nothing is said. -/
def Host.Respects (H : Host) (R : H.State → H.State → Prop) (c : Call) : Prop :=
  ∀ st st', R st st' →
    (H.answer c st').1 = (H.answer c st).1 ∧ R (H.answer c st).2.2 (H.answer c st').2.2

/-- From any two sessions with related hosts, the action does the same. -/
def Twins (R : H.State → H.State → Prop) (m : HostM H α) : Prop :=
  ∀ s s', R s.host s'.host → (m s').1 = (m s).1 ∧
    ∃ L, s.Unfolds L (m s).2 ∧ s'.Unfolds L (m s').2 ∧ R (m s).2.host (m s').2.host

/-! ## 2. The calculus -/

theorem twins_pure (a : α) : Twins R (pure a : HostM H α) :=
  fun s s' hR => ⟨rfl, [], .refl s, .refl s', hR⟩

theorem twins_bind {m : HostM H α} {f : α → HostM H β} (h : Twins R m) (k : ∀ a, Twins R (f a)) :
    Twins R (m >>= f) := by
  intro s s' hR
  obtain ⟨hresult, L, hL, hL', hR⟩ := h s s' hR
  obtain ⟨hresult', K, hK, hK', hR⟩ := k (m s).1 (m s).2 (m s').2 hR
  have hrun : (m >>= f) s' = f (m s).1 (m s').2 := by
    change f (m s').1 (m s').2 = _
    rw [hresult]
  rw [hrun]
  exact ⟨hresult', L ++ K, hL.trans hK, hL'.trans hK', hR⟩

theorem twins_ask {c : Call} (hc : H.Respects R c) : Twins R (ask c : HostM H c.Reply) := by
  intro s s' hR
  obtain ⟨hreply, hnext⟩ := hc s.host s'.host hR
  have hsame : (ask c s').1 = (ask c s).1 := hreply
  refine ⟨hsame, _, .ask c (.refl _), ?_, ?_⟩
  · have hask : s'.Unfolds [.exchange c (ask c s').1] (ask c s').2 := .ask c (.refl _)
    rwa [hsame] at hask
  · rw [Session.ask_host, Session.ask_host]
    exact hnext

theorem twins_log (r : Record) : Twins R (log r : HostM H Unit) :=
  fun _ _ hR => ⟨rfl, _, .log r (.refl _), .log r (.refl _), hR⟩

theorem twins_map {m : HostM H α} (f : α → β) (h : Twins R m) : Twins R (f <$> m) := by
  intro s s' hR
  obtain ⟨hresult, hrest⟩ := h s s' hR
  exact ⟨congrArg f hresult, hrest⟩

/-- A step of a chain that ends with the first failure. -/
theorem twins_try {ε : Type} {m : HostM H (Except ε α)} {f : α → ExceptT ε (HostM H) β}
    (h : Twins R m) (k : ∀ a, Twins R (f a).run) : Twins R (ExceptT.mk m >>= f).run := by
  change Twins R (m >>= ExceptT.bindCont f)
  refine twins_bind h fun result => ?_
  cases result with
  | error failure => exact twins_pure _
  | ok a => exact k a

/-- A step of a chain that cannot fail. -/
theorem twins_lift {ε : Type} {m : HostM H α} {f : α → ExceptT ε (HostM H) β} (h : Twins R m)
    (k : ∀ a, Twins R (f a).run) :
    Twins R ((liftM m : ExceptT ε (HostM H) α) >>= f).run := by
  change Twins R (m >>= fun a => (f a).run)
  exact twins_bind h k

/-! ## 3. The functions of the engine -/

/-- A call that is made to halt a source. -/
def Call.Halts (id : SourceId) (c : Call) : Prop :=
  c = .pause id ∨ c = .seek id .zero ∨ c = .sourceAddress id

/-- **Halting a source** asks nothing but calls that halt it. -/
theorem halt_twins {id : SourceId} (hR : ∀ c, c.Halts id → H.Respects R c) :
    Twins R (id.halt : HostM H Unit) := by
  have hpause : H.Respects R (.pause id) := hR _ (.inl rfl)
  have hseek : H.Respects R (.seek id .zero) := hR _ (.inr (.inl rfl))
  have haddress : H.Respects R (.sourceAddress id) := hR _ (.inr (.inr rfl))
  unfold SourceId.halt SourceId.rewind
  refine twins_bind (twins_bind (twins_ask hpause) fun paused => ?_) fun result => ?_
  · cases paused with
    | error failure => exact twins_pure _
    | ok _ => exact twins_ask hseek
  · cases result with
    | ok _ => exact twins_pure _
    | error failure => exact twins_bind (twins_ask haddress) fun _ => twins_log _

/-- The call is about the context: how it is, and whether it may run. -/
def Call.isContextual : Call → Bool
  | .contextState | .resume | .awaitResume => true
  | _ => false

theorem Call.Halts.isContextual {c : Call} {id : SourceId} (h : c.Halts id) :
    c.isContextual = false := by
  rcases h with rfl | rfl | rfl <;> rfl

section Functions

variable (hR : ∀ c, c.isContextual = false → H.Respects R c)

include hR

theorem start_twins (id : SourceId) : Twins R (id.start : HostM H Start) := by
  unfold SourceId.start
  refine twins_bind (twins_ask (hR _ rfl)) fun reply => ?_
  cases reply with
  | ok _ => exact twins_pure _
  | error failure =>
    refine twins_bind (twins_ask (hR _ rfl)) fun _ => ?_
    exact twins_bind (twins_log _) fun _ => twins_pure _

theorem chain_twins (id : SourceId) (bus : BusNode) (pan : Single) :
    Twins R (Mixer.chain id bus pan : HostM H _) := by
  unfold Mixer.chain
  refine twins_try (twins_ask (hR _ rfl)) fun node => ?_
  refine twins_lift (twins_ask (hR _ rfl)) fun stereo => ?_
  cases stereo with
  | false => exact twins_try (twins_ask (hR _ rfl)) fun _ => twins_pure _
  | true =>
    refine twins_try (twins_ask (hR _ rfl)) fun panner => ?_
    refine twins_try (twins_ask (hR _ rfl)) fun _ => ?_
    exact twins_try (twins_ask (hR _ rfl)) fun _ => twins_pure _

theorem attach_twins (m : Mixer) (page : Option Url) (id : SourceId) (kind : BusKind)
    (pan : Single) : Twins R (m.attach page id kind pan : HostM H Routing) := by
  unfold Mixer.attach
  cases m.target? kind with
  | none => exact twins_pure _
  | some bus =>
    refine twins_bind (twins_ask (hR _ rfl)) fun address => ?_
    cases Url.isCrossOrigin page address with
    | true => exact twins_pure _
    | false =>
      refine twins_bind (chain_twins hR id bus pan) fun result => ?_
      cases result <;> exact twins_pure _

theorem scale_twins (m : Mixer) (id : SourceId) (kind : BusKind) :
    Twins R (m.scale id kind : HostM H Unit) := by
  unfold Mixer.scale
  dsimp only
  split
  · exact twins_bind (twins_ask (hR _ rfl)) fun _ => twins_ask (hR _ rfl)
  · exact twins_pure _

theorem route_twins (m : Mixer) (page : Option Url) (id : SourceId) (kind : BusKind)
    (pan : Single) : Twins R (m.route page id kind pan : HostM H Routing) := by
  unfold Mixer.route
  refine twins_bind (attach_twins hR m page id kind pan) fun routing => ?_
  cases routing with
  | attached route => exact twins_pure _
  | direct reason =>
    refine twins_bind (scale_twins hR m id kind) fun _ => ?_
    refine twins_bind (twins_ask (hR _ rfl)) fun _ => ?_
    exact twins_bind (twins_log _) fun _ => twins_pure _

theorem create_twins (supply : Supply) (page : Option Url) (address : String) :
    Twins R (supply.create page address : HostM H _) := by
  unfold Supply.create
  refine twins_bind (twins_ask (hR _ rfl)) fun reply => ?_
  cases reply with
  | error failure => exact twins_pure _
  | ok _ =>
    refine twins_bind (twins_ask (hR _ rfl)) fun _ => ?_
    exact twins_bind (twins_log _) fun _ => twins_pure _

theorem playEffect_twins (effects : Effects) (supply : Supply) (m : Mixer) (page : Option Url)
    (base : String) (request : EffectRequest) :
    Twins R (effects.play supply m page base request : HostM H _) := by
  unfold Effects.play
  cases Address.resolve request.name base with
  | none => exact twins_pure _
  | some address =>
    refine twins_bind (create_twins hR supply page address) fun result => ?_
    obtain ⟨made, supply'⟩ := result
    cases made with
    | error failure => exact twins_bind (twins_log _) fun _ => twins_pure _
    | ok id =>
      refine twins_bind (twins_ask (hR _ rfl)) fun _ => ?_
      refine twins_bind (twins_ask (hR _ rfl)) fun _ => ?_
      refine twins_bind (route_twins hR m page id .effects request.panFactor) fun routing => ?_
      refine twins_bind (start_twins hR id) fun start => ?_
      exact twins_bind (twins_log _) fun _ => twins_pure _

theorem haltEach_twins (effects : Effects) : Twins R (effects.haltEach : HostM H Unit) := by
  induction effects with
  | nil => exact twins_pure _
  | cons e es ih => exact twins_bind (halt_twins fun c hc => hR c hc.isContextual) fun _ => ih

theorem stopEffects_twins (effects : Effects) (order : VisitOrder) :
    Twins R (effects.stopAll order : HostM H Effects) :=
  twins_bind (haltEach_twins hR _) fun _ => twins_pure _

theorem stopMusic_twins (music : Music) : Twins R (music.stop : HostM H Music) := by
  cases music with
  | none => exact twins_pure _
  | some t =>
    refine twins_bind (halt_twins fun c hc => hR c hc.isContextual) fun _ => ?_
    exact twins_bind (twins_log _) fun _ => twins_pure _

theorem begin_twins (supply : Supply) (m : Mixer) (page : Option Url) (address : String)
    (request : MusicRequest) :
    Twins R (Music.begin supply m page address request : HostM H _) := by
  unfold Music.begin
  refine twins_bind (create_twins hR supply page address) fun result => ?_
  obtain ⟨made, supply'⟩ := result
  cases made with
  | error failure => exact twins_bind (twins_log _) fun _ => twins_pure _
  | ok id =>
    refine twins_bind (twins_ask (hR _ rfl)) fun _ => ?_
    refine twins_bind (twins_ask (hR _ rfl)) fun _ => ?_
    refine twins_bind (route_twins hR m page id .music .zero) fun routing => ?_
    refine twins_bind (start_twins hR id) fun start => ?_
    exact twins_bind (twins_log _) fun _ => twins_pure _

theorem resume_twins (t : Track) : Twins R (t.resume : HostM H MusicOutcome) := by
  unfold Track.resume
  refine twins_bind (twins_ask (hR _ rfl)) fun paused => ?_
  cases paused with
  | false => exact twins_pure _
  | true => exact twins_bind (start_twins hR t.source) fun _ => twins_pure _

theorem playMusic_twins (music : Music) (supply : Supply) (m : Mixer) (page : Option Url)
    (base : String) (request : MusicRequest) :
    Twins R (music.play supply m page base request : HostM H _) := by
  unfold Music.play
  cases Address.resolve request.name base with
  | none => exact twins_pure _
  | some address =>
    cases music.filter (·.answers request) with
    | some t => exact twins_bind (resume_twins hR t) fun _ => twins_pure _
    | none =>
      exact twins_bind (stopMusic_twins hR music) fun _ => begin_twins hR supply m page address request

theorem setGain_twins (e : Engine) (kind : BusKind) (gain : Single) :
    Twins R (e.setGain kind gain : HostM H Engine) := by
  unfold Engine.setGain Mixer.setGain Bus.setGain
  refine twins_bind (twins_bind ?_ fun _ => twins_pure _) fun _ => twins_pure _
  dsimp only
  cases (e.mixer.buses.get kind).node with
  | none => exact twins_pure _
  | some node => exact twins_bind (twins_ask (hR _ rfl)) fun _ => twins_pure _

end Functions

section Context

variable (hR : ∀ c, H.Respects R c)

include hR

theorem awaitResume_twins (patience : Nat) :
    Twins R (Engine.awaitResume patience : HostM H _) := by
  induction patience with
  | zero => exact twins_pure _
  | succ patience ih =>
    unfold Engine.awaitResume
    refine twins_bind (twins_ask (hR _)) fun reply => ?_
    cases reply with
    | some result => exact twins_pure _
    | none => exact ih

theorem isRunning_twins : Twins R (Engine.isRunning : HostM H Bool) :=
  twins_bind (twins_ask (hR _)) fun _ => twins_pure _

theorem unlock_twins (e : Engine) (patience : Nat) : Twins R (e.unlock patience : HostM H _) := by
  unfold Engine.unlock
  split
  · exact twins_pure _
  split
  · exact twins_pure _
  refine twins_bind (isRunning_twins hR) fun running => ?_
  split
  · exact twins_map _ (isRunning_twins hR)
  refine twins_bind (twins_ask (hR _)) fun _ => ?_
  refine twins_bind (awaitResume_twins hR patience) fun result => ?_
  match result with
  | none => exact twins_pure _
  | some (.ok ()) => exact twins_map _ (isRunning_twins hR)
  | some (.error failure) =>
    exact twins_bind (twins_log _) fun _ => twins_map _ (isRunning_twins hR)

theorem isUnlocked_twins (e : Engine) : Twins R (e.isUnlocked : HostM H Bool) := by
  unfold Engine.isUnlocked
  split
  · exact isRunning_twins hR
  · exact twins_pure _

end Context

/-! ## 4. Operations -/

namespace Engine

/-- What an operation does, apart from the drain.  If it drains, the engine has heeded by then the
events that waited, and `drained` is their number. -/
def act (e : Engine) (drained : Nat) : Operation → HostM H (Answer × Engine)
  | .playEffect request => do
    let (outcome, supply, effects) ←
      e.effects.play e.supply e.mixer e.page e.settings.effectiveBase request
    pure (.effect outcome, { e with supply, effects })
  | .playMusic request => do
    let (outcome, supply, music) ←
      e.music.play e.supply e.mixer e.page e.settings.effectiveBase request
    pure (.music outcome, { e with supply, music })
  | .stopMusic => do
    let music ← e.music.stop
    pure (.done, { e with music })
  | .stopAll order => do
    let music ← e.music.stop
    let effects ← e.effects.stopAll order
    pure (.done, { e with music, effects })
  | .drain => pure (.drained drained, e)
  | .setGain kind gain => do
    let e ← e.setGain kind gain
    pure (.gain (e.mixer.gain kind), e)
  | .unlock patience => do pure (.unlocked (← e.unlock patience), e)
  | .isUnlocked => do pure (.unlocked (some (← e.isUnlocked)), e)

variable {e : Engine} {op : Operation}

theorem perform_of_drains (h : Conduct.drains op = true) :
    (e.perform op : HostM H _) = e.drain >>= fun x => x.2.act x.1 op := by
  cases op with
  | setGain | unlock | isUnlocked => exact absurd h Bool.false_ne_true
  | _ => rfl

theorem perform_of_not_drains (h : Conduct.drains op = false) (n : Nat) :
    (e.perform op : HostM H _) = e.act n op := by
  cases op with
  | setGain | unlock | isUnlocked => rfl
  | _ => exact absurd h.symm Bool.false_ne_true

/-- How many events were drained is only told by a drain. -/
theorem act_count (h : op ≠ .drain) (n n' : Nat) :
    (e.act n op : HostM H _) = e.act n' op := by
  cases op with
  | drain => exact absurd rfl h
  | _ => rfl

/-- **An operation that does not drain** does not look at the tracked effects, and leaves them. -/
theorem act_effects (h : Conduct.drains op = false) (n : Nat) (effects : Effects) :
    (({ e with effects } : Engine).act n op : HostM H _) =
      (fun r => (r.1, { r.2 with effects })) <$> e.act n op := by
  cases op with
  | setGain | unlock | isUnlocked => rfl
  | _ => exact absurd h.symm Bool.false_ne_true

end Engine

/-- The operation is about the context. -/
def Operation.isContextual : Operation → Bool
  | .unlock _ | .isUnlocked => true
  | _ => false

/-- An operation that is not about the context, over a host that respects the calls that are not. -/
theorem act_twins_apart (hR : ∀ c, c.isContextual = false → H.Respects R c) (e : Engine) (n : Nat)
    {op : Operation} (hop : op.isContextual = false) : Twins R (e.act n op : HostM H _) := by
  cases op with
  | unlock | isUnlocked => exact absurd hop.symm Bool.false_ne_true
  | playEffect request =>
    exact twins_bind (playEffect_twins hR _ _ _ _ _ _) fun _ => twins_pure _
  | playMusic request =>
    exact twins_bind (playMusic_twins hR _ _ _ _ _ _) fun _ => twins_pure _
  | stopMusic => exact twins_bind (stopMusic_twins hR _) fun _ => twins_pure _
  | stopAll order =>
    refine twins_bind (stopMusic_twins hR _) fun _ => ?_
    exact twins_bind (stopEffects_twins hR _ order) fun _ => twins_pure _
  | drain => exact twins_pure _
  | setGain kind gain => exact twins_bind (setGain_twins hR e kind gain) fun _ => twins_pure _

theorem act_twins (hR : ∀ c, H.Respects R c) (e : Engine) (n : Nat) (op : Operation) :
    Twins R (e.act n op : HostM H _) := by
  cases op with
  | unlock patience => exact twins_bind (unlock_twins hR e patience) fun _ => twins_pure _
  | isUnlocked => exact twins_bind (isUnlocked_twins hR e) fun _ => twins_pure _
  | _ => exact act_twins_apart (fun c _ => hR c) e n rfl

/-! ## 5. How an operation sets out -/

section SetsOut

open Conduct

/-- The operation sets out in the session `t`, in which `left` still waits, as the engine that has heeded
what it drains; `n` is the number of all events that waited. -/
structure Situation.SetsOut (now : Situation H) (op : Operation) (n : Nat) (left : List Notice)
    (t : Session H) : Prop where
  host : t.host = now.session.host
  mailbox : t.mailbox = .listening left
  run : now.engine.perform op now.session =
    (heeded now.engine (Passage.mk now (.perform op)).consumed).act n op t
  entries : ∀ L, t.Unfolds L (Passage.mk now (.perform op)).finish.session →
    (Passage.mk now (.perform op)).entries =
      farewells now.engine.effects (Passage.mk now (.perform op)).consumed ++ L

/-- The entries of a passage are those by which the session unfolds, from whatever the passage has
not written. -/
theorem Passage.entries_eq {p : Passage H} (hl : p.start.session.Listening) {s : Session H}
    (hs : s.Listening) (hc : s.chronicle = p.start.session.chronicle) {L : List Entry}
    (h : s.Unfolds L p.finish.session) : p.entries = L := by
  have hchronicle := h.chronicle hs
  rw [chronicle_finish hl, hc] at hchronicle
  exact List.append_cancel_left hchronicle

variable {now : Situation H} {op : Operation} {n : Nat} {left : List Notice} {t : Session H}

/-- What was drained makes no call. -/
theorem Situation.SetsOut.exchanges (h : now.SetsOut op n left t) {L : List Entry}
    (hL : t.Unfolds L (Passage.mk now (.perform op)).finish.session) :
    (Passage.mk now (.perform op)).exchanges = exchangesOf L := by
  unfold Passage.exchanges
  rw [h.entries L hL, exchangesOf_append, exchangesOf_farewells, List.nil_append]

/-- **Every operation sets out**, with or without a drain. -/
theorem Situation.setsOut (now : Situation H) {waiting : List Notice}
    (hw : now.session.mailbox = .listening waiting) (op : Operation) :
    ∃ t, now.SetsOut op waiting.length (if drains op then [] else waiting) t := by
  have hl : now.session.Listening := ⟨waiting, hw⟩
  have hconsumed : (Passage.mk now (.perform op)).consumed = if drains op then waiting else [] := by
    change Conduct.consumed op now.session = _
    unfold Conduct.consumed
    rw [hw]
    rfl
  cases hd : drains op with
  | true =>
    rw [hd, if_pos rfl] at hconsumed
    obtain ⟨t, hdrain, ht⟩ := drain_run (e := now.engine) hw
    have hempty : (emptied now.session).mailbox = .listening [] := rfl
    have hhost := ht.host
    have hmailbox := ht.mailbox hempty
    rw [exchangesOf_farewells] at hhost hmailbox
    refine ⟨t, hhost, hmailbox, ?_, fun L hL => ?_⟩
    · rw [Engine.perform_of_drains hd, hconsumed]
      simp only [bind, StateT.bind, hdrain]
      rfl
    · rw [hconsumed]
      exact Passage.entries_eq (p := ⟨now, .perform op⟩) hl ⟨[], hempty⟩ rfl (ht.trans hL)
  | false =>
    rw [hd, if_neg Bool.false_ne_true] at hconsumed
    refine ⟨now.session, rfl, hw, ?_, fun L hL => ?_⟩
    · rw [Engine.perform_of_not_drains hd waiting.length, hconsumed]
      rfl
    · rw [hconsumed]
      exact Passage.entries_eq (p := ⟨now, .perform op⟩) hl hl rfl hL

end SetsOut

end SoundEngine
