import SoundEngine.Proofs.Roster
import SoundEngine.Proofs.Visits

/-!
# Nobody sees when events are delivered

Events wait until an operation drains them.  An engine that drains after every step heeds them at
once; one that drains only when it has to heeds them late, and until then it tracks effects that are
over.  This module compares two such runs, over one host and with the same steps, except for the
drains.

The two runs are never in the same state for long, so the proof is about what they have in common: two
situations AGREE when their hosts cannot be told apart, and their engines would be equal if each heeded
the events that wait (`Situation.Agree`).  A drain in one of the runs keeps that up (§3).  So does
each step that is taken in both (§4), for one of two reasons.

* An operation that drains makes the engines equal before it does anything else.
* An operation that does not drain neither looks at the tracked effects nor changes them; the events
  that it adds come behind those that wait in both runs.

The order in which effects are halted may differ between the runs as well.  Then the calls of that
step differ in their order (`UpToVisits`), if halting one source does not bear on halting another.
-/

namespace SoundEngine

open Conduct

variable {H : Host} {R : H.State → H.State → Prop}

/-! ## 1. Runs that differ in their drains -/

/-- The step is a drain, and nothing else. -/
def Step.isDrain : Step H → Bool
  | .perform .drain => true
  | _ => false

/-- A run without its drains. -/
def lasting (steps : List (Step H)) : List (Step H) := steps.filter fun step => !step.isDrain

/-- The passages of a run without its drains, which are all that anyone outside is told of it: to drain
makes no call. -/
def Situation.told (now : Situation H) (steps : List (Step H)) : List (Passage H) :=
  (now.history steps).filter fun p => !p.step.isDrain

/-- The two steps do the same: one operation, or one change of the host that does not tell apart what
could not be told apart before.  To stop everything may visit the effects in another order, over a host
for which halts stay apart. -/
inductive Step.Alike (R : H.State → H.State → Prop) : Step H → Step H → Prop
  | perform (op : Operation) : Alike R (.perform op) (.perform op)
  | meanwhile (change : H.State → H.State) (notices : List Notice)
      (h : ∀ st st', R st st' → R (change st) (change st')) :
      Alike R (.meanwhile change notices) (.meanwhile change notices)
  | stopAll (order order' : VisitOrder) (h : H.HaltsApart R) :
      Alike R (.perform (.stopAll order)) (.perform (.stopAll order'))

/-- The exchanges are the same, up to the order in which sources were halted: each of them by the same
calls, one after the other. -/
inductive UpToVisits : List Exchange → List Exchange → Prop
  | refl (X : List Exchange) : UpToVisits X X
  | append {X X' Y Y' : List Exchange} (hX : UpToVisits X X') (hY : UpToVisits Y Y') :
      UpToVisits (X ++ Y) (X' ++ Y')
  | visits {ids ids' : List SourceId} (hperm : ids.Perm ids') {visit : SourceId → List Exchange}
      (hvisit : ∀ id ∈ ids, ∃ L, Halting id L ∧ visit id = exchangesOf L) :
      UpToVisits (ids.flatMap visit) (ids'.flatMap visit)

/-- Two passages do the same: they give one answer and make the same calls, with the same answers of
the host.  Where sources are halted in different orders the calls are the same up to that order; passages
of one and the same step make them in one order. -/
structure Passage.Agrees (p q : Passage H) : Prop where
  answer : q.answer = p.answer
  exchanges : UpToVisits p.exchanges q.exchanges
  same : q.step = p.step → q.exchanges = p.exchanges

theorem Passage.agrees_of_eq {p q : Passage H} (ha : q.answer = p.answer)
    (hX : q.exchanges = p.exchanges) : p.Agrees q :=
  ⟨ha, hX ▸ .refl _, fun _ => hX⟩

/-- The two runs are walked together: a step in both, or a drain in one of them. -/
inductive Redrained (R : H.State → H.State → Prop) : List (Step H) → List (Step H) → Prop
  | nil : Redrained R [] []
  | step {s s' : Step H} {rest rest' : List (Step H)} (hs : s.isDrain = false)
      (h : Step.Alike R s s') (hrest : Redrained R rest rest') :
      Redrained R (s :: rest) (s' :: rest')
  | left {steps steps' : List (Step H)} (h : Redrained R steps steps') :
      Redrained R (.perform .drain :: steps) steps'
  | right {steps steps' : List (Step H)} (h : Redrained R steps steps') :
      Redrained R steps (.perform .drain :: steps')

theorem Step.eq_drain {s : Step H} (h : s.isDrain = true) : s = .perform .drain := by
  unfold Step.isDrain at h
  split at h
  · rfl
  · exact absurd h Bool.false_ne_true

theorem lasting_cons (s : Step H) (rest : List (Step H)) :
    lasting (s :: rest) = if s.isDrain then lasting rest else s :: lasting rest := by
  unfold lasting
  rw [List.filter_cons]
  cases s.isDrain <;> rfl

/-- Runs that are the same without their drains can be walked together. -/
theorem redrained_of_lasting {steps steps' : List (Step H)}
    (h : List.Forall₂ (Step.Alike R) (lasting steps) (lasting steps')) :
    Redrained R steps steps' := by
  -- On both sides the drains go first, and the steps that last then meet in pairs.
  induction steps generalizing steps' with
  | nil =>
    induction steps' with
    | nil => exact .nil
    | cons s' rest' ih =>
      rw [lasting_cons] at h
      cases hs' : s'.isDrain with
      | true =>
        rw [if_pos hs'] at h
        rw [Step.eq_drain hs']
        exact .right (ih h)
      | false =>
        rw [hs'] at h
        cases h
  | cons s rest ih =>
    rw [lasting_cons] at h
    cases hs : s.isDrain with
    | true =>
      rw [if_pos hs] at h
      rw [Step.eq_drain hs]
      exact .left (ih h)
    | false =>
      rw [hs] at h
      induction steps' with
      | nil => cases h
      | cons s' rest' ih' =>
        rw [lasting_cons] at h
        cases hs' : s'.isDrain with
        | true =>
          rw [if_pos hs'] at h
          rw [Step.eq_drain hs']
          exact .right (ih' h)
        | false =>
          rw [hs'] at h
          cases h with
          | cons halike hrest => exact .step hs halike (ih hrest)

/-! ## 2. Situations that agree -/

/-- The engine, were it to heed now the events that wait.  It is the same before a drain and after it, so
that two runs with different drains can be compared by it. -/
def Situation.settled (now : Situation H) : Engine :=
  heeded now.engine now.session.mailbox.waiting

/-- The hosts cannot be told apart, and the engines would be the same if each heeded the events that
wait.  The engines themselves may differ, by the effects that one of them has already given up; this is
what drains can bring about, and what every step keeps. -/
structure Situation.Agree (R : H.State → H.State → Prop) (a b : Situation H) : Prop where
  host : R a.session.host b.session.host
  left : a.session.Listening
  right : b.session.Listening
  sound : a.engine.roster.Sound
  settled : b.settled = a.settled

theorem heeding_append (effects : Effects) (notices more : List Notice) :
    heeding effects (notices ++ more) = heeding (heeding effects notices) more :=
  List.foldl_append

theorem heeding_nil (notices : List Notice) : heeding [] notices = [] := by
  rw [heeding_eq_filter]
  rfl

/-- What an engine heeds later it heeds after what waits now. -/
theorem heeded_append (e : Engine) (notices more : List Notice) :
    heeded e (notices ++ more) = heeded (heeded e notices) more := by
  unfold heeded
  rw [heeding_append]

theorem settled_sound {now : Situation H} (hs : now.engine.roster.Sound) :
    now.settled.roster.Sound := by
  unfold Situation.settled
  rw [heeded_roster]
  exact hs.filter _

theorem settled_nodup {now : Situation H} (hs : now.engine.roster.Sound) :
    (now.settled.effects.map ActiveEffect.source).Nodup :=
  (settled_sound hs).nodup

theorem sound_finish {p : Passage H} (hl : p.start.session.Listening)
    (hs : p.start.engine.roster.Sound) : p.finish.engine.roster.Sound :=
  (Passage.moves hl hs).sound hs

/-- What an operation drains settles the engine. -/
theorem Situation.heeded_consumed (now : Situation H) {op : Operation} (hd : drains op = true) :
    heeded now.engine (Passage.mk now (.perform op)).consumed = now.settled := by
  change heeded now.engine (Conduct.consumed op now.session) = _
  unfold Conduct.consumed
  rw [if_pos hd]
  rfl

/-- **An operation that drains** acts as the settled engine, in a session in which no event waits. -/
theorem Situation.drained (now : Situation H) (hl : now.session.Listening) (op : Operation)
    (hd : drains op = true) :
    let p : Passage H := ⟨now, .perform op⟩
    ∃ t n, t.host = now.session.host ∧ t.mailbox = .listening [] ∧
      now.engine.perform op now.session = now.settled.act n op t ∧
      ∀ L, t.Unfolds L p.finish.session → p.exchanges = exchangesOf L := by
  intro p
  obtain ⟨waiting, hw⟩ := hl
  obtain ⟨t, ht⟩ := now.setsOut hw op
  have hrun := ht.run
  rw [now.heeded_consumed hd] at hrun
  rw [if_pos hd] at ht
  exact ⟨t, waiting.length, ht.host, ht.mailbox, hrun, fun L hL => ht.exchanges hL⟩

/-! ## 3. A drain -/

/-- **A drain settles the engine**, and does nothing else. -/
theorem Situation.next_drain (now : Situation H) (hl : now.session.Listening) :
    let p : Passage H := ⟨now, .perform .drain⟩
    p.finish.engine = now.settled ∧ p.finish.session.host = now.session.host ∧
      p.finish.session.mailbox = .listening [] ∧ p.exchanges = [] := by
  intro p
  obtain ⟨t, n, hhost, hmailbox, hrun, hX⟩ := now.drained hl .drain rfl
  have hfinish : p.finish = ⟨now.settled, t⟩ := Passage.finish_of_perform hrun
  have hsession : p.finish.session = t := congrArg Situation.session hfinish
  refine ⟨congrArg Situation.engine hfinish, hsession ▸ hhost, hsession ▸ hmailbox, ?_⟩
  exact hX [] (hsession ▸ .refl t)

section Drains

variable {a b : Situation H}

theorem Situation.settled_drain (hl : a.session.Listening) :
    (a.next (.perform .drain)).settled = a.settled := by
  obtain ⟨hengine, -, hmailbox, -⟩ := a.next_drain hl
  change heeded (a.next (.perform .drain)).engine
    (a.next (.perform .drain)).session.mailbox.waiting = _
  change (a.next (.perform .drain)).engine = _ at hengine
  change (a.next (.perform .drain)).session.mailbox = _ at hmailbox
  rw [hengine, hmailbox]
  rfl

theorem Situation.Agree.drain_left (h : a.Agree R b) : (a.next (.perform .drain)).Agree R b where
  host := by
    have hhost : (a.next (.perform .drain)).session.host = a.session.host :=
      (a.next_drain h.left).2.1
    rw [hhost]
    exact h.host
  left := Passage.finish_listening (p := ⟨a, .perform .drain⟩) h.left
  right := h.right
  sound := sound_finish (p := ⟨a, .perform .drain⟩) h.left h.sound
  settled := by rw [settled_drain h.left, h.settled]

theorem Situation.Agree.drain_right (h : a.Agree R b) : a.Agree R (b.next (.perform .drain)) where
  host := by
    have hhost : (b.next (.perform .drain)).session.host = b.session.host :=
      (b.next_drain h.right).2.1
    rw [hhost]
    exact h.host
  left := h.left
  right := Passage.finish_listening (p := ⟨b, .perform .drain⟩) h.right
  sound := h.sound
  settled := by rw [settled_drain h.right, h.settled]

end Drains

/-! ## 4. A step in both runs -/

/-- An operation that does not drain acts as the settled engine would, and leaves the tracked effects. -/
theorem Situation.undrained (now : Situation H) (hl : now.session.Listening) {op : Operation}
    (hd : drains op = false) {e : Engine} (he : now.settled = e) :
    let p : Passage H := ⟨now, .perform op⟩
    let r := e.act 0 op now.session
    p.answer = some r.1.1 ∧
      p.finish = ⟨{ r.1.2 with effects := now.engine.effects }, r.2⟩ ∧
      ∀ L, now.session.Unfolds L r.2 → p.exchanges = exchangesOf L := by
  intro p r
  subst he
  -- the operation neither reads the effects nor changes them, so the notices may wait
  have hact : now.engine.perform op = (fun r : Answer × Engine =>
      (r.1, { r.2 with effects := now.engine.effects })) <$> (now.settled.act 0 op : HostM H _) :=
    (Engine.perform_of_not_drains hd 0).trans
      (Engine.act_effects (e := now.settled) hd 0 now.engine.effects)
  have hrun : now.engine.perform op now.session =
      ((r.1.1, { r.1.2 with effects := now.engine.effects }), r.2) := by
    rw [hact]
    rfl
  have hfinish : p.finish = ⟨{ r.1.2 with effects := now.engine.effects }, r.2⟩ :=
    Passage.finish_of_perform hrun
  refine ⟨(Passage.answer_of_perform hrun).trans rfl, hfinish, fun L hL => ?_⟩
  have hL' : now.session.Unfolds L p.finish.session := by
    rw [hfinish]
    exact hL
  unfold Passage.exchanges
  rw [Passage.entries_eq (p := p) hl hl rfl hL']

/-- To stop everything stops the music, and then leaves for each effect what halting it alone would
leave. -/
theorem Situation.stopped (now : Situation H) (hR : H.Resembles R) (hA : H.HaltsApart R)
    (hl : now.session.Listening) {e : Engine} (he : now.settled = e)
    (hnodup : (e.effects.map ActiveEffect.source).Nodup) (order : VisitOrder) :
    let p : Passage H := ⟨now, .perform (.stopAll order)⟩
    let ids := (order.arrange e.effects).map ActiveEffect.source
    ∃ t : Session H, t.host = now.session.host ∧ ∀ M, t.Unfolds M (e.music.stop t).2 →
      p.answer = some .done ∧
      p.finish.engine = { e with music := (e.music.stop t).1, effects := [] } ∧
      p.exchanges = exchangesOf M ++ ids.flatMap (H.halting (e.music.stop t).2.host) ∧
      p.finish.session.host = H.haltedAll (e.music.stop t).2.host ids := by
  intro p ids
  subst he
  obtain ⟨t, n, hhost, -, hrun, hX⟩ := now.drained hl (.stopAll order) rfl
  have hids : ids.Nodup := ((order.perm _).map _).nodup_iff.mpr hnodup
  obtain ⟨K, hK, hY, hend⟩ := haltEach_run hR hA _ hids (now.settled.music.stop t).2
  have hfinish : p.finish = ⟨{ now.settled with
      music := (now.settled.music.stop t).1, effects := [] },
      ((order.arrange now.settled.effects).haltEach (now.settled.music.stop t).2).2⟩ :=
    Passage.finish_of_perform hrun
  refine ⟨t, hhost, fun M hM => ⟨?_, congrArg Situation.engine hfinish, ?_, ?_⟩⟩
  · exact Passage.answer_of_perform hrun
  · have hL : t.Unfolds (M ++ K) p.finish.session := by
      rw [hfinish]
      exact hM.trans hK
    rw [hX _ hL, exchangesOf_append, hY]
  · rw [hfinish]
    exact hend

section Steps

variable {a b : Situation H} (h : a.Agree R b)

include h

/-- **The host changes** in both. -/
theorem Situation.Agree.rests {change : H.State → H.State} {notices : List Notice}
    (hchange : ∀ st st', R st st' → R (change st) (change st')) :
    let p : Passage H := ⟨a, .meanwhile change notices⟩
    let q : Passage H := ⟨b, .meanwhile change notices⟩
    p.Agrees q ∧ p.finish.Agree R q.finish := by
  intro p q
  obtain ⟨hanswer, hp, hp'⟩ := Passage.rested (p := p) rfl
  obtain ⟨hanswer', hq, hq'⟩ := Passage.rested (p := q) rfl
  obtain ⟨waiting, hw⟩ := h.left
  obtain ⟨waiting', hw'⟩ := h.right
  have hsettled := h.settled
  unfold Situation.settled at hsettled
  rw [hw, hw'] at hsettled
  refine ⟨Passage.agrees_of_eq (hanswer'.trans hanswer.symm) ?_, ?_, ?_, ?_, ?_, ?_⟩
  · rw [Passage.exchanges_rested (p := p) h.left rfl, Passage.exchanges_rested (p := q) h.right rfl]
  · rw [hp', hq', Passage.meanwhile_host, Passage.meanwhile_host]
    exact hchange _ _ h.host
  · exact Passage.finish_listening h.left
  · exact Passage.finish_listening h.right
  · exact sound_finish h.left h.sound
  · unfold Situation.settled
    rw [hp, hq, hp', hq', (Passage.meanwhile_mailbox _ hw change notices).1,
      (Passage.meanwhile_mailbox _ hw' change notices).1]
    unfold Mailbox.waiting
    dsimp only
    rw [heeded_append, heeded_append]
    exact congrArg (heeded · notices) hsettled

variable (hR : H.Resembles R)

include hR

/-- **An operation that drains** does the same in both, on the same engine. -/
theorem Situation.Agree.acts {op : Operation} (hd : drains op = true) (hop : op ≠ .drain) :
    let p : Passage H := ⟨a, .perform op⟩
    let q : Passage H := ⟨b, .perform op⟩
    p.Agrees q ∧ p.finish.Agree R q.finish := by
  intro p q
  obtain ⟨t, n, hhost, hmailbox, hrun, hX⟩ := a.drained h.left op hd
  obtain ⟨t', n', hhost', hmailbox', hrun', hX'⟩ := b.drained h.right op hd
  rw [h.settled, Engine.act_count hop n' n] at hrun'
  have hstart : R t.host t'.host := by
    rw [hhost, hhost']
    exact h.host
  obtain ⟨hresult, L, hL, hL', hend⟩ := act_twins hR.respects a.settled n op t t' hstart
  have hp : p.finish = ⟨(a.settled.act n op t).1.2, (a.settled.act n op t).2⟩ :=
    Passage.finish_of_perform hrun
  have hq : q.finish = ⟨(a.settled.act n op t).1.2, (a.settled.act n op t').2⟩ := by
    rw [← hresult]
    exact Passage.finish_of_perform hrun'
  have hanswer : p.answer = some (a.settled.act n op t).1.1 := Passage.answer_of_perform hrun
  have hanswer' : q.answer = some (a.settled.act n op t).1.1 := by
    rw [← hresult]
    exact Passage.answer_of_perform hrun'
  refine ⟨Passage.agrees_of_eq (hanswer'.trans hanswer.symm) ?_, ?_, ?_, ?_, ?_, ?_⟩
  · rw [hX L (by rw [hp]; exact hL), hX' L (by rw [hq]; exact hL')]
  · rw [hp, hq]
    exact hend
  · exact Passage.finish_listening h.left
  · exact Passage.finish_listening h.right
  · exact sound_finish h.left h.sound
  · unfold Situation.settled
    rw [hp, hq, hL.mailbox hmailbox, hL'.mailbox hmailbox', reported_respects hR hstart]

/-- **An operation that does not drain** does the same in both; the events that it adds wait behind
those that wait. -/
theorem Situation.Agree.waits {op : Operation} (hd : drains op = false) :
    let p : Passage H := ⟨a, .perform op⟩
    let q : Passage H := ⟨b, .perform op⟩
    p.Agrees q ∧ p.finish.Agree R q.finish := by
  intro p q
  obtain ⟨hanswer, hp, hX⟩ := a.undrained h.left hd rfl
  obtain ⟨hanswer', hq, hX'⟩ := b.undrained h.right hd h.settled
  obtain ⟨hresult, L, hL, hL', hend⟩ :=
    act_twins hR.respects a.settled 0 op a.session b.session h.host
  obtain ⟨waiting, hw⟩ := h.left
  obtain ⟨waiting', hw'⟩ := h.right
  -- the two sides may hold different effects, but not once the notices are heeded
  have hsettled : heeding b.engine.effects waiting' = heeding a.engine.effects waiting := by
    have heffects := congrArg Engine.effects h.settled
    unfold Situation.settled at heffects
    rw [hw, hw'] at heffects
    exact heffects
  refine ⟨Passage.agrees_of_eq ?_ ?_, ?_, ?_, ?_, ?_, ?_⟩
  · exact hanswer'.trans ((congrArg (fun r => some r.1) hresult).trans hanswer.symm)
  · rw [hX L hL, hX' L hL']
  · rw [hp, hq]
    exact hend
  · exact Passage.finish_listening h.left
  · exact Passage.finish_listening h.right
  · exact sound_finish h.left h.sound
  · unfold Situation.settled
    rw [hp, hq, hL.mailbox hw, hL'.mailbox hw', reported_respects hR h.host, hresult]
    unfold heeded Mailbox.waiting
    dsimp only
    rw [heeding_append, heeding_append, hsettled]

/-- **Everything is stopped** in both, in whatever order the effects are visited. -/
theorem Situation.Agree.stopsAll (hA : H.HaltsApart R) (order order' : VisitOrder) :
    let p : Passage H := ⟨a, .perform (.stopAll order)⟩
    let q : Passage H := ⟨b, .perform (.stopAll order')⟩
    p.Agrees q ∧ p.finish.Agree R q.finish := by
  intro p q
  have hnodup := settled_nodup h.sound
  obtain ⟨t, hhost, hstop⟩ := a.stopped hR hA h.left rfl hnodup order
  obtain ⟨t', hhost', hstop'⟩ := b.stopped hR hA h.right h.settled hnodup order'
  -- The music is stopped in the same way, and leaves two sessions with related hosts.
  have hstart : R t.host t'.host := by
    rw [hhost, hhost']
    exact h.host
  obtain ⟨hmusic, M, hM, hM', hmiddle⟩ :=
    stopMusic_twins (fun c _ => hR.respects c) a.settled.music t t' hstart
  obtain ⟨hanswer, hengine, hX, hend⟩ := hstop M hM
  obtain ⟨hanswer', hengine', hX', hend'⟩ := hstop' M hM'
  -- The effects are halted in two orders, each of them as if it were the first.
  have hperm : ((order.arrange a.settled.effects).map ActiveEffect.source).Perm
      ((order'.arrange a.settled.effects).map ActiveEffect.source) :=
    ((order.perm _).trans (order'.perm _).symm).map _
  have hids : ((order.arrange a.settled.effects).map ActiveEffect.source).Nodup :=
    ((order.perm _).map _).nodup_iff.mpr hnodup
  rw [show H.halting _ = H.halting _ from funext (halting_respects hR hmiddle)] at hX'
  refine ⟨⟨hanswer'.trans hanswer.symm, ?_, fun hstep => ?_⟩, ?_, ?_, ?_, ?_, ?_⟩
  · rw [hX, hX']
    exact .append (.refl _) (.visits hperm fun id _ => halting_conduct _ id)
  · have horder : order' = order := by
      injection hstep with hop
      injection hop
    rw [hX, hX', horder]
  · rw [hend, hend']
    exact haltedAll_perm hR hA hperm hids hmiddle
  · exact Passage.finish_listening h.left
  · exact Passage.finish_listening h.right
  · exact sound_finish h.left h.sound
  · unfold Situation.settled heeded
    rw [hengine, hengine', hmusic, heeding_nil, heeding_nil]

/-- **A step in both runs** does the same in both. -/
theorem Situation.Agree.step {s s' : Step H} (halike : Step.Alike R s s')
    (hs : s.isDrain = false) :
    let p : Passage H := ⟨a, s⟩
    let q : Passage H := ⟨b, s'⟩
    p.Agrees q ∧ p.finish.Agree R q.finish := by
  cases halike with
  | meanwhile change notices hchange => exact h.rests hchange
  | stopAll order order' hA => exact h.stopsAll hR hA order order'
  | perform op =>
    cases hd : drains op with
    | false => exact h.waits hR hd
    | true =>
      refine h.acts hR hd ?_
      rintro rfl
      exact Bool.noConfusion hs

end Steps

/-! ## 5. Whole runs -/

theorem told_drain (now : Situation H) (rest : List (Step H)) :
    now.told (.perform .drain :: rest) = (now.next (.perform .drain)).told rest :=
  List.filter_cons_of_neg Bool.false_ne_true

theorem told_step (now : Situation H) {s : Step H} (hs : s.isDrain = false) (rest : List (Step H)) :
    now.told (s :: rest) = ⟨now, s⟩ :: (now.next s).told rest := by
  refine List.filter_cons_of_pos ?_
  change (!s.isDrain) = true
  rw [hs]
  rfl

theorem Step.Alike.isDrain {s s' : Step H} (h : Step.Alike R s s') : s'.isDrain = s.isDrain := by
  cases h <;> rfl

/-- **The two runs side by side**: what they agree on they go on agreeing on. -/
theorem Situation.Agree.run (hR : H.Resembles R) {steps steps' : List (Step H)}
    (hsteps : Redrained R steps steps') {a b : Situation H} (h : a.Agree R b) :
    List.Forall₂ Passage.Agrees (a.told steps) (b.told steps') ∧
      (a.after steps).Agree R (b.after steps') := by
  induction hsteps generalizing a b with
  | nil => exact ⟨.nil, h⟩
  | @step s s' rest rest' hs halike _ ih =>
    obtain ⟨hagrees, hnext⟩ := h.step hR halike hs
    obtain ⟨hrest, hend⟩ := ih hnext
    rw [told_step a hs, told_step b (halike.isDrain.trans hs)]
    exact ⟨.cons hagrees hrest, hend⟩
  | left _ ih =>
    rw [told_drain]
    exact ih h.drain_left
  | right _ ih =>
    rw [told_drain]
    exact ih h.drain_right

/-- A drain makes no calls, so those of a run are all in the passages that are told. -/
theorem told_exchanges {now : Situation H} (hl : now.session.Listening) (steps : List (Step H)) :
    (now.told steps).flatMap Passage.exchanges =
      (now.history steps).flatMap Passage.exchanges := by
  induction steps generalizing now with
  | nil => rfl
  | cons s rest ih =>
    have hrest := ih (Passage.finish_listening (p := ⟨now, s⟩) hl)
    have hcons : (now.history (s :: rest)).flatMap Passage.exchanges =
        Passage.exchanges ⟨now, s⟩ ++ ((now.next s).history rest).flatMap Passage.exchanges :=
      List.flatMap_cons
    cases hs : s.isDrain with
    | true =>
      obtain rfl := Step.eq_drain hs
      have hnone : Passage.exchanges ⟨now, .perform .drain⟩ = [] := (now.next_drain hl).2.2.2
      rw [told_drain, hcons, hnone, List.nil_append]
      exact hrest
    | false =>
      rw [told_step now hs, hcons, List.flatMap_cons]
      exact congrArg _ hrest

theorem upToVisits_flatMap {ps qs : List (Passage H)} (h : List.Forall₂ Passage.Agrees ps qs) :
    UpToVisits (ps.flatMap Passage.exchanges) (qs.flatMap Passage.exchanges) := by
  induction h with
  | nil => exact .refl []
  | cons hpq _ ih =>
    rw [List.flatMap_cons, List.flatMap_cons]
    exact hpq.exchanges.append ih

/-- Where the steps are the same, the calls are the same to the last. -/
theorem exchanges_eq_of_steps {ps qs : List (Passage H)} (h : List.Forall₂ Passage.Agrees ps qs)
    (hsteps : qs.map Passage.step = ps.map Passage.step) :
    qs.flatMap Passage.exchanges = ps.flatMap Passage.exchanges := by
  induction h with
  | nil => rfl
  | cons hpq _ ih =>
    obtain ⟨hstep, hrest⟩ := List.cons.inj hsteps
    rw [List.flatMap_cons, List.flatMap_cons, hpq.same hstep, ih hrest]

theorem map_step_told (now : Situation H) (steps : List (Step H)) :
    (now.told steps).map Passage.step = lasting steps := by
  induction steps generalizing now with
  | nil => rfl
  | cons s rest ih =>
    rw [lasting_cons]
    cases hs : s.isDrain with
    | true =>
      obtain rfl := Step.eq_drain hs
      rw [told_drain]
      exact ih _
    | false =>
      rw [told_step now hs]
      exact congrArg (s :: ·) (ih _)

/-- **Nobody sees when events are delivered.**  Let two runs over one host, from one configuration, be
the same without their drains, except that to stop everything may visit the effects in another order
where halts stay apart.  Then:

* all operations other than the drains give the same answers, and make the same calls with the same
  answers of the host;
* so the two runs make the same calls, up to the order of those visits; and the very same calls if the
  orders are the same;
* they end with the same track in the slot, the same mixer and the same supply of sources;
* and after one more drain in each, their engines are the same, with the same tracked effects.

`R` relates the states of the host that nobody can tell apart; it can be equality. -/
theorem drains_unseen (hR : H.Resembles R) (settings : Settings) (host : H.State)
    {steps steps' : List (Step H)}
    (h : List.Forall₂ (Step.Alike R) (lasting steps) (lasting steps')) :
    let start : Situation H := .opening settings host
    let now := start.after steps
    let now' := start.after steps'
    let trace := exchangesOf now.session.chronicle
    let trace' := exchangesOf now'.session.chronicle
    List.Forall₂ Passage.Agrees (start.told steps) (start.told steps') ∧
    UpToVisits trace trace' ∧
    (lasting steps' = lasting steps → trace' = trace) ∧
    (now'.engine.music = now.engine.music ∧ now'.engine.mixer = now.engine.mixer ∧
      now'.engine.supply = now.engine.supply) ∧
    (now'.next (.perform .drain)).engine = (now.next (.perform .drain)).engine := by
  intro start now now' trace trace'
  have hl : start.session.Listening := opening_listening settings host
  have hstart : start.Agree R start :=
    ⟨hR.equivalence.refl _, hl, hl, after_sound settings host [], rfl⟩
  obtain ⟨htold, hend⟩ := hstart.run hR (redrained_of_lasting h)
  -- a drain makes no call, so the trace is that of the passages that are told
  have htrace : trace = exchangesOf start.session.chronicle ++
      (start.told steps).flatMap Passage.exchanges := by
    rw [told_exchanges hl]
    exact trace_eq hl steps
  have htrace' : trace' = exchangesOf start.session.chronicle ++
      (start.told steps').flatMap Passage.exchanges := by
    rw [told_exchanges hl]
    exact trace_eq hl steps'
  refine ⟨htold, ?_, fun hsame => ?_, ⟨?_, ?_, ?_⟩, ?_⟩
  · rw [htrace, htrace']
    exact .append (.refl _) (upToVisits_flatMap htold)
  · have hsteps : (start.told steps').map Passage.step = (start.told steps).map Passage.step := by
      rw [map_step_told, map_step_told, hsame]
    rw [htrace, htrace', exchanges_eq_of_steps htold hsteps]
  · have hmusic : now'.settled.music = now.settled.music := congrArg Engine.music hend.settled
    exact hmusic
  · have hmixer : now'.settled.mixer = now.settled.mixer := congrArg Engine.mixer hend.settled
    exact hmixer
  · have hsupply : now'.settled.supply = now.settled.supply := congrArg Engine.supply hend.settled
    exact hsupply
  · have hdrained : (now.next (.perform .drain)).engine = now.settled :=
      (now.next_drain hend.left).1
    have hdrained' : (now'.next (.perform .drain)).engine = now'.settled :=
      (now'.next_drain hend.right).1
    rw [hdrained, hdrained', hend.settled]

/-- On a stage: an effect ends, and another one at the end of the run.  The first run drains after each
of these events, the second only when it has to; and they stop the effects in opposite orders. -/
theorem drains_unseen_stage :
    let ends (number : Nat) : Step Stage.host :=
      .meanwhile (fun s => (Stage.finish s ⟨number⟩).1) (Stage.finish { script := {} } ⟨number⟩).2
    let plays (name : String) : Step Stage.host := .perform (.playEffect { name })
    let drain : Step Stage.host := .perform .drain
    let eager := [plays "chime", ends 1, drain, .perform (.setGain .effects .nan), drain,
      plays "bell", plays "gong", .perform (.stopAll .oldestFirst), plays "horn", ends 4, drain]
    let late := [plays "chime", ends 1, .perform (.setGain .effects .nan), plays "bell",
      plays "gong", .perform (.stopAll ⟨List.reverse, List.reverse_perm⟩), plays "horn", ends 4]
    let start : Situation Stage.host := .opening .standard { script := {} }
    let now := start.after eager
    let now' := start.after late
    now'.engine.effects ≠ now.engine.effects ∧
    UpToVisits (exchangesOf now.session.chronicle) (exchangesOf now'.session.chronicle) ∧
    (now'.next (.perform .drain)).engine = (now.next (.perform .drain)).engine := by
  intro ends plays drain eager late start now now'
  have hends : ∀ number, Step.Alike Eq (ends number) (ends number) := by
    intro number
    refine .meanwhile _ _ ?_
    rintro st _ rfl
    rfl
  have hsteps : List.Forall₂ (Step.Alike Eq) (lasting eager) (lasting late) := by
    refine .cons (.perform _) (.cons (hends 1) (.cons (.perform _) (.cons (.perform _) ?_)))
    refine .cons (.perform _) (.cons (.stopAll _ _ Stage.haltsApart) (.cons (.perform _) ?_))
    exact .cons (hends 4) .nil
  have hdiffer : now'.engine.effects ≠ now.engine.effects := by decide +kernel
  have hsame := drains_unseen (H := Stage.host) Stage.host.resembles_eq .standard
    { script := {} } hsteps
  clear_value eager late
  exact ⟨hdiffer, hsame.2.1, hsame.2.2.2.2⟩

end SoundEngine
