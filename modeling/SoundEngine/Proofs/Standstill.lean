import Mathlib
import SoundEngine.Proofs.Delivery
import SoundEngine.Proofs.OneTrack

/-!
# Everything comes to a standstill

To stop everything is to halt one source after the other: the track first, then the tracked effects in
an order that nobody has chosen.  Any of these halts may fail, events of the very sources that are
halted may wait in the mailbox already, and more come in with every pause.  This module shows that the
job is done all the same, and that neither the order nor the late events can be told afterwards
(`everything_stops`).

* §1 is about a row of halts over any host.  A halt that fails does not end the row, and as the sources
  of the row are all different, what one of them is told can be picked out of it (`filter_visits`).
* §2 assumes of the host that it answers each source by the calls on this source alone
  (`Host.AnswersApart`).  `Proofs.Visits` assumes more, for there the state of the host is compared as
  well; here only what a source is told and tells is, and that is the same whatever was halted before.
* §3 is one such passage, and §4 what comes after it.  The events that the halts have left in the
  mailbox find no effect that they could end: nothing is tracked, and whoever tracks an effect drains
  first.  So a session with these events and one without them stay in step (`Situation.Stale`).
* §5 is a stage, which answers each source on its own, and §6 puts everything together.
-/

namespace SoundEngine

open Conduct

variable {H : Host}

/-! ## 1. A row of halts -/

/-- The call names the source. -/
def Call.names (id : SourceId) (c : Call) : Bool := decide (c.source? = some id)

theorem Call.Halts.source? {id : SourceId} {c : Call} (h : c.Halts id) : c.source? = some id := by
  rcases h with rfl | rfl | rfl <;> rfl

/-- What the exchanges of a row of visits have about one source is what its own visit has. -/
theorem filter_visits {ids : List SourceId} (hnodup : ids.Nodup)
    {visit : SourceId → List Exchange}
    (hvisit : ∀ i ∈ ids, ∀ x ∈ visit i, x.call.source? = some i) {P : Exchange → Bool}
    {id : SourceId} (hP : ∀ x, P x = true → x.call.source? = some id) :
    (ids.flatMap visit).filter P = if id ∈ ids then (visit id).filter P else [] := by
  induction ids with
  | nil => rfl
  | cons i ids ih =>
    obtain ⟨hnew, hnodup⟩ := List.nodup_cons.mp hnodup
    obtain ⟨hi, hids⟩ := List.forall_mem_cons.mp hvisit
    rw [List.flatMap_cons, List.filter_append, ih hnodup hids]
    by_cases hid : id = i
    · subst hid
      simp [hnew]
    · have hnone : (visit i).filter P = [] := by
        refine List.filter_eq_nil_iff.mpr fun x hx hPx => hid ?_
        have hsame := (hP x hPx).symm.trans (hi x hx)
        exact Option.some.inj hsame
      simp [hnone, hid]

namespace Conduct

theorem halting_source? {id : SourceId} {L : List Entry} (h : Halting id L) :
    ∀ x ∈ exchangesOf L, x.call.source? = some id := by
  intro x hx
  exact Call.Halts.source? (halting_calls h x hx)

theorem halting_haltedOnce {id : SourceId} {L : List Entry} (h : Halting id L) :
    HaltedOnce id (exchangesOf L) := by
  cases h with
  | rewound => exact ⟨.ok (), by simp [Call.seeks, Except.isOk, Except.toBool]⟩
  | notPaused failure => exact ⟨.error failure, by simp [Call.seeks, Except.isOk, Except.toBool]⟩
  | notRewound failure => exact ⟨.ok (), by simp [Call.seeks, Except.isOk, Except.toBool]⟩

/-- The effects of a row are visited one after the other, each of them once. -/
theorem haltingEach_visits {effects : Effects} {K : List Entry} (h : HaltingEach effects K)
    (hnodup : (effects.map ActiveEffect.source).Nodup) :
    ∃ visit, exchangesOf K = (effects.map ActiveEffect.source).flatMap visit ∧
      ∀ id ∈ effects.map ActiveEffect.source, ∃ L, Halting id L ∧ visit id = exchangesOf L := by
  induction h with
  | nil => exact ⟨fun _ => [], rfl, by simp⟩
  | @cons e es L K hL _ ih =>
    obtain ⟨hnew, hnodup⟩ := List.nodup_cons.mp hnodup
    obtain ⟨visit, hK, hvisit⟩ := ih hnodup
    refine ⟨fun id => if id = e.source then exchangesOf L else visit id, ?_, ?_⟩
    · have hrest : (es.map ActiveEffect.source).map
          (fun id => if id = e.source then exchangesOf L else visit id) =
          (es.map ActiveEffect.source).map visit := by
        refine List.map_congr_left fun id hid => if_neg ?_
        rintro rfl
        exact hnew hid
      rw [exchangesOf_append, hK, List.map_cons, List.flatMap_cons, if_pos rfl, List.flatMap_def,
        List.flatMap_def, hrest]
    · intro id hid
      by_cases he : id = e.source
      · subst he
        exact ⟨L, hL, if_pos rfl⟩
      · rcases List.mem_cons.mp hid with hid | hid
        · exact absurd hid he
        · obtain ⟨L', hL', hv⟩ := hvisit id hid
          exact ⟨L', hL', (if_neg he).trans hv⟩

/-- To stop everything is a row of visits: to the track, if there is one, and then to the effects. -/
theorem stopping_visits {music : Music} {effects : Effects} {L K : List Entry}
    (hL : StoppingMusic music L) (hK : HaltingEach effects K)
    (hnodup : ((music.map Track.source).toList ++ effects.map ActiveEffect.source).Nodup) :
    ∃ visit, exchangesOf (L ++ K) =
        ((music.map Track.source).toList ++ effects.map ActiveEffect.source).flatMap visit ∧
      ∀ id ∈ (music.map Track.source).toList ++ effects.map ActiveEffect.source,
        ∃ M, Halting id M ∧ visit id = exchangesOf M := by
  cases hL with
  | idle => exact haltingEach_visits hK hnodup
  | @stopped t L hL =>
    -- the track is one more source at the head of the row
    let row : Effects := ⟨t.source, none⟩ :: effects
    have hrow : HaltingEach row (L ++ K) := .cons hL hK
    obtain ⟨visit, hX, hvisit⟩ := haltingEach_visits hrow hnodup
    refine ⟨visit, ?_, hvisit⟩
    have hsame : exchangesOf (L ++ [.record (.musicStopped t.source t.name)] ++ K) =
        exchangesOf (L ++ K) := by simp
    rw [hsame, hX]
    rfl

end Conduct

/-! ## 2. Hosts that answer each source on its own -/

/-- The calls that name a source. -/
def callsOn (id : SourceId) (calls : List Call) : List Call := calls.filter (Call.names id)

/-- From this state on, the host answers a call on a source by the earlier calls on that source alone:
neither the answer nor the events that come with it depend on anything else. -/
def Host.AnswersApart (H : Host) (st : H.State) : Prop :=
  ∀ id c, c.source? = some id → ∀ A B, callsOn id A = callsOn id B →
    (H.answer c (H.after st A)).1 = (H.answer c (H.after st B)).1 ∧
      (H.answer c (H.after st A)).2.1 = (H.answer c (H.after st B)).2.1

/-- The events that a host reports while it halts a source. -/
def Host.haltNotices (H : Host) (st : H.State) (id : SourceId) : List Notice :=
  H.reported st ((H.halting st id).map Exchange.call)

/-- Calls on other sources do not count. -/
theorem callsOn_append {id : SourceId} {A : List Call} (hnone : callsOn id A = []) (B : List Call) :
    callsOn id (A ++ B) = callsOn id B := by
  unfold callsOn at hnone ⊢
  rw [List.filter_append, hnone, List.nil_append]

theorem callsOn_eq_nil {id i : SourceId} (hne : i ≠ id) {A : List Call}
    (h : ∀ c ∈ A, c.source? = some i) : callsOn id A = [] := by
  refine List.filter_eq_nil_iff.mpr fun c hc hnames => hne ?_
  have hsame := (h c hc).symm.trans (of_decide_eq_true hnames)
  exact Option.some.inj hsame

section Apart

variable {st : H.State} {id : SourceId} {A : List Call} (hA : H.AnswersApart st)

include hA

/-- Whether or not there were calls on other sources before is a difference that no call on this source
tells. -/
theorem respects_apart (hnone : callsOn id A = []) {c : Call} (hc : c.source? = some id) :
    H.Respects (fun st₁ st₂ => ∃ Z, st₁ = H.after st Z ∧ st₂ = H.after st (A ++ Z)) c := by
  rintro _ _ ⟨Z, rfl, rfl⟩
  refine ⟨(hA id c hc _ _ (callsOn_append hnone Z)).1, Z ++ [c], ?_, ?_⟩
  · rw [after_append_calls]
    rfl
  · rw [← List.append_assoc, after_append_calls st (A ++ Z)]
    rfl

/-- **A source is halted by the same calls** whatever other sources were told before. -/
theorem halting_apart (hnone : callsOn id A = []) :
    H.halting (H.after st A) id = H.halting st id := by
  have hstart : ∃ Z, st = H.after st Z ∧ H.after st A = H.after st (A ++ Z) :=
    ⟨[], rfl, by rw [List.append_nil]⟩
  obtain ⟨-, L, hL, hL', -⟩ := halt_twins (fun c hc => respects_apart hA hnone hc.source?)
    (Session.fresh st : Session H) (.fresh (H.after st A)) hstart
  unfold Host.halting
  rw [hL.chronicle (Session.fresh_listening st),
    hL'.chronicle (Session.fresh_listening (H.after st A))]
  rfl

/-- **It tells the same**, too. -/
theorem reported_apart (hnone : callsOn id A = []) {calls : List Call}
    (hcalls : ∀ c ∈ calls, c.source? = some id) (Z : List Call) :
    H.reported (H.after st (A ++ Z)) calls = H.reported (H.after st Z) calls := by
  induction calls generalizing Z with
  | nil => rfl
  | cons c calls ih =>
    obtain ⟨hc, hcalls⟩ := List.forall_mem_cons.mp hcalls
    have hrest := ih hcalls (Z ++ [c])
    rw [← List.append_assoc, after_append_calls st (A ++ Z), after_append_calls st Z] at hrest
    change (H.answer c (H.after st (A ++ Z))).2.1 ++ _ = (H.answer c (H.after st Z)).2.1 ++ _
    rw [(hA id c hc _ _ (callsOn_append hnone Z)).2]
    exact congrArg _ hrest

omit hA in
theorem halting_names (st : H.State) (id : SourceId) :
    ∀ c ∈ (H.halting st id).map Exchange.call, c.source? = some id := by
  intro c hc
  exact (halting_halts st id c hc).source?

omit hA in
/-- To stop the music is to halt the track, if there is one. -/
theorem stopMusic_run (music : Music) (s : Session H) :
    ∃ M, s.Unfolds M (music.stop s).2 ∧
      exchangesOf M = (music.map Track.source).toList.flatMap (H.halting s.host) := by
  cases music with
  | none => exact ⟨[], .refl s, rfl⟩
  | some track =>
    obtain ⟨L, hL, -, hX, -⟩ := halt_run track.source s
    refine ⟨L ++ [.record (.musicStopped track.source track.name)], hL.trans (.log _ (.refl _)), ?_⟩
    rw [exchangesOf_append, hX]
    rfl

omit hA in
/-- A source that is not in the row is told nothing. -/
theorem callsOn_halts {ids : List SourceId} (hid : id ∉ ids) :
    callsOn id ((ids.flatMap (H.halting st)).map Exchange.call) = [] := by
  refine List.filter_eq_nil_iff.mpr fun c hc hnames => hid ?_
  obtain ⟨x, hx, rfl⟩ := List.mem_map.mp hc
  obtain ⟨i, hi, hx⟩ := List.mem_flatMap.mp hx
  have hname := halting_names st i _ (List.mem_map_of_mem hx)
  rwa [← Option.some.inj (hname.symm.trans (of_decide_eq_true hnames))]

omit hA in
/-- A source that comes later in the row has not been told anything. -/
theorem callsOn_row {ids : List SourceId} (hnew : id ∉ ids)
    (hnone : ∀ i ∈ id :: ids, callsOn i A = []) :
    ∀ i ∈ ids, callsOn i (A ++ (H.halting st id).map Exchange.call) = [] := by
  intro i hi
  rw [callsOn_append (hnone i (List.mem_cons_of_mem id hi))]
  refine callsOn_eq_nil ?_ (halting_names st id)
  rintro rfl
  exact hnew hi

/-- **Halting a row of sources** leaves for each what halting it alone would leave. -/
theorem haltEach_apart (effects : Effects) (hnodup : (effects.map ActiveEffect.source).Nodup)
    {A : List Call} (hnone : ∀ id ∈ effects.map ActiveEffect.source, callsOn id A = [])
    (s : Session H) (hs : s.host = H.after st A) :
    ∃ L, s.Unfolds L ((effects.haltEach : HostM H Unit) s).2 ∧
      exchangesOf L = (effects.map ActiveEffect.source).flatMap (H.halting st) := by
  induction effects generalizing s A with
  | nil => exact ⟨[], .refl s, rfl⟩
  | cons e es ih =>
    obtain ⟨hnew, hnodup⟩ := List.nodup_cons.mp hnodup
    obtain ⟨L, hL, -, hX, hhost⟩ := halt_run e.source s
    have hX' : exchangesOf L = H.halting st e.source := by
      rw [hX, hs, halting_apart hA (hnone _ List.mem_cons_self)]
    have hnext : ((e.source.halt : HostM H Unit) s).2.host =
        H.after st (A ++ (H.halting st e.source).map Exchange.call) := by
      rw [after_append_calls, ← hs, ← hX', ← hL.host]
    obtain ⟨K, hK, hY⟩ := ih hnodup (callsOn_row hnew hnone) _ hnext
    refine ⟨L ++ K, hL.trans hK, ?_⟩
    rw [exchangesOf_append, hX', hY, List.map_cons, List.flatMap_cons]

/-- So the events that a row leaves are those that each halt leaves alone. -/
theorem reported_row {ids : List SourceId} (hnodup : ids.Nodup) {A : List Call}
    (hnone : ∀ id ∈ ids, callsOn id A = []) :
    H.reported (H.after st A) ((ids.flatMap (H.halting st)).map Exchange.call) =
      ids.flatMap (H.haltNotices st) := by
  induction ids generalizing A with
  | nil => rfl
  | cons id ids ih =>
    obtain ⟨hnew, hnodup⟩ := List.nodup_cons.mp hnodup
    have hfirst : H.reported (H.after st A) ((H.halting st id).map Exchange.call) =
        H.haltNotices st id := by
      have hreported := reported_apart hA (hnone id List.mem_cons_self) (halting_names st id) []
      rw [List.append_nil] at hreported
      exact hreported
    rw [List.flatMap_cons, List.map_append, reported_append, hfirst, ← after_append_calls,
      ih hnodup (callsOn_row hnew hnone), List.flatMap_cons]

end Apart

/-! ## 3. The passage that stops everything -/

/-- The sources that are to be halted: the track, then the effects that no event that waits has ended,
in the order of the visits. -/
def Passage.row (p : Passage H) (order : VisitOrder) : List SourceId :=
  (p.start.engine.music.map Track.source).toList ++
    (order.arrange p.unfinished).map ActiveEffect.source

section Stops

variable {p : Passage H} {order : VisitOrder}

theorem Passage.row_perm (p : Passage H) (order order' : VisitOrder) :
    (p.row order).Perm (p.row order') := by
  refine List.Perm.append_left _ ?_
  exact ((order.perm _).trans (order'.perm _).symm).map _

theorem Passage.unfinished_sublist (p : Passage H) :
    (p.unfinished.map ActiveEffect.source).Sublist p.start.engine.roster.effects :=
  List.filter_sublist.map _

/-- No source is to be halted twice. -/
theorem Passage.row_nodup (hs : p.start.engine.roster.Sound) (order : VisitOrder) :
    (p.row order).Nodup := by
  have hperm : ((order.arrange p.unfinished).map ActiveEffect.source).Perm
      (p.unfinished.map ActiveEffect.source) := (order.perm _).map _
  have heffects : ((order.arrange p.unfinished).map ActiveEffect.source).Nodup :=
    hperm.nodup_iff.mpr (hs.nodup.sublist p.unfinished_sublist)
  have hmusic : (p.start.engine.music.map Track.source).toList.Nodup := by
    cases p.start.engine.music <;> simp
  refine List.Nodup.append hmusic heffects fun id hm he => ?_
  refine hs.apart id (Option.mem_toList.mp hm) ?_
  exact p.unfinished_sublist.mem (hperm.mem_iff.mp he)

/-- An effect that is over when the mailbox is emptied is not in the row. -/
theorem Passage.not_mem_row (hs : p.start.engine.roster.Sound) (order : VisitOrder) {id : SourceId}
    (ht : p.start.engine.effects.tracks id = true) (hf : p.Finishes id) : id ∉ p.row order := by
  have hheld : id ∈ p.start.engine.roster.effects := Effects.tracks_iff.mp ht
  intro hid
  rcases List.mem_append.mp hid with hid | hid
  · exact hs.apart id (Option.mem_toList.mp hid) hheld
  · obtain ⟨e, he, rfl⟩ := List.mem_map.mp hid
    have hkept : e ∈ p.unfinished := (order.perm _).mem_iff.mp he
    exact of_decide_eq_true (List.mem_filter.mp hkept).2 hf

variable (hl : p.start.session.Listening) (h : p.step = .perform (.stopAll order))

include hl h

/-- **First the drain, then the track, then the effects**; nothing else changes. -/
theorem Passage.stops :
    ∃ L K, p.entries = farewells p.start.engine.effects p.consumed ++ (L ++ K) ∧
      p.exchanges = exchangesOf (L ++ K) ∧ StoppingMusic p.start.engine.music L ∧
      HaltingEach (order.arrange p.unfinished) K ∧ p.answer = some .done ∧
      p.finish.engine = { p.start.engine with effects := [], music := none } := by
  obtain ⟨answer, M, ha, hent, -, hA⟩ := Passage.performed hl h
  have hX : p.exchanges = exchangesOf M := by
    unfold Passage.exchanges
    rw [hent, exchangesOf_append, exchangesOf_farewells, List.nil_append]
  have hrest : (heeded p.start.engine p.consumed).effects = p.unfinished := heeding_eq_filter _ _
  generalize p.finish.engine = e' at hA ⊢
  cases hA with
  | @stopAll _ L K hL hK =>
    rw [hrest] at hK
    exact ⟨L, K, hent, hX, hL, hK, ha, rfl⟩

/-- **Every source of the row is halted**, once, whatever comes of the others; and no other call is
made. -/
theorem Passage.haltsRow (hs : p.start.engine.roster.Sound) :
    (∀ id ∈ p.row order, HaltedOnce id p.exchanges) ∧
      ∀ x ∈ p.exchanges, ∃ id ∈ p.row order, x.call.Halts id := by
  obtain ⟨L, K, -, hX, hL, hK, -, -⟩ := Passage.stops hl h
  obtain ⟨visit, hvisits, hvisit⟩ := stopping_visits hL hK (Passage.row_nodup hs order)
  have hrow : p.exchanges = (p.row order).flatMap visit := hX.trans hvisits
  have hsource : ∀ id ∈ p.row order, ∀ x ∈ visit id, x.call.source? = some id := by
    intro id hid x hx
    obtain ⟨M, hM, hv⟩ := hvisit id hid
    exact halting_source? hM x (hv ▸ hx)
  rw [hrow]
  constructor
  · intro id hid
    obtain ⟨M, hM, hv⟩ := hvisit id hid
    have honce : HaltedOnce id (visit id) := hv ▸ halting_haltedOnce hM
    have hpause : ∀ x : Exchange, decide (x.call = .pause id) = true →
        x.call.source? = some id := by
      intro x hx
      rw [of_decide_eq_true hx]
      rfl
    have hseek : ∀ x : Exchange, x.call.seeks id = true → x.call.source? = some id := by
      rintro ⟨call, reply⟩ hx
      cases call with
      | seek i position => exact congrArg some (beq_iff_eq.mp hx)
      | _ => exact absurd hx Bool.false_ne_true
    unfold HaltedOnce at honce ⊢
    rw [filter_visits (Passage.row_nodup hs order) hsource hpause,
      filter_visits (Passage.row_nodup hs order) hsource hseek, if_pos hid, if_pos hid]
    exact honce
  · intro x hx
    obtain ⟨id, hid, hx⟩ := List.mem_flatMap.mp hx
    obtain ⟨M, hM, hv⟩ := hvisit id hid
    exact ⟨id, hid, halting_calls hM x (hv ▸ hx)⟩

end Stops

/-- Over a host that answers each source on its own, every source of the row is told what it would be
told alone, and tells what it would tell. -/
theorem Situation.stops_apart {now : Situation H} (hl : now.session.Listening)
    (hs : now.engine.roster.Sound) (hA : H.AnswersApart now.session.host) (order : VisitOrder) :
    let p : Passage H := ⟨now, .perform (.stopAll order)⟩
    p.exchanges = (p.row order).flatMap (H.halting now.session.host) ∧
      p.finish.session.mailbox.waiting = (p.row order).flatMap (H.haltNotices now.session.host) := by
  intro p
  have hnodup := Passage.row_nodup (p := p) hs order
  obtain ⟨t, n, hhost, -, hrun, hX⟩ := now.drained hl (.stopAll order) rfl
  have hrest : now.settled.effects = p.unfinished := heeding_eq_filter _ _
  have hsession : p.finish.session = ((order.arrange now.settled.effects).haltEach
      (now.engine.music.stop t).2).2 :=
    congrArg Situation.session (Passage.finish_of_perform hrun)
  rw [hrest] at hsession
  obtain ⟨M, hM, hMX⟩ := stopMusic_run now.engine.music t
  rw [hhost] at hMX
  have hmiddle := hM.host
  rw [hhost] at hmiddle
  -- the effects have not been told anything by then, for the track is none of them
  have hnone : ∀ id ∈ (order.arrange p.unfinished).map ActiveEffect.source,
      callsOn id ((exchangesOf M).map Exchange.call) = [] := by
    intro id hid
    rw [hMX]
    exact callsOn_halts fun hmem => List.disjoint_of_nodup_append hnodup hmem hid
  have heffects : ((order.arrange p.unfinished).map ActiveEffect.source).Nodup :=
    hnodup.sublist (List.sublist_append_right _ _)
  obtain ⟨K, hK, hKX⟩ := haltEach_apart hA _ heffects hnone _ hmiddle
  have hexchanges : p.exchanges = (p.row order).flatMap (H.halting now.session.host) := by
    have hL : t.Unfolds (M ++ K) p.finish.session := by
      rw [hsession]
      exact hM.trans hK
    rw [hX _ hL, exchangesOf_append, hMX, hKX, ← List.flatMap_append]
    rfl
  refine ⟨hexchanges, ?_⟩
  have hwaiting := congrArg Mailbox.waiting (Passage.waiting_finish (p := p) hl)
  have hconsumed : p.consumed = now.session.mailbox.waiting := rfl
  have harrivals : p.arrivals =
      H.reported now.session.host (p.exchanges.map Exchange.call) := rfl
  rw [hconsumed, List.drop_length, List.nil_append, harrivals, hexchanges] at hwaiting
  exact hwaiting.trans (reported_row hA (A := []) hnodup fun id _ => rfl)

/-! ## 4. Late events -/

/-- The situation without the events that wait: those are lost. -/
def Situation.hushed (now : Situation H) : Situation H := ⟨now.engine, emptied now.session⟩

/-- The step takes the events that wait.  While the engine rests they stay, and more may come. -/
def Step.drains : Step H → Bool
  | .perform op => Conduct.drains op
  | .meanwhile _ _ => false

/-- The answer, if some more events are drained. -/
def Answer.counting (more : Nat) : Answer → Answer
  | .drained count => .drained (more + count)
  | answer => answer

/-- In the first situation some more events wait, in front of those that wait in both; and they are of
nothing that is tracked, for nothing is.  Otherwise the two are the same. -/
structure Situation.Stale (extra : List Notice) (a b : Situation H) : Prop where
  engine : a.engine = b.engine
  host : a.session.host = b.session.host
  waits : ∃ waiting, a.session.mailbox = .listening (extra ++ waiting) ∧
    b.session.mailbox = .listening waiting
  untracked : extra = [] ∨ b.engine.effects = []

theorem farewells_nil (notices : List Notice) : farewells [] notices = [] := by
  induction notices with
  | nil => rfl
  | cons n ns ih =>
    have hends : Effects.endsWith [] n = false := Bool.and_false _
    have happly : Effects.apply [] n = [] := by
      unfold Effects.apply
      rw [hends, if_neg Bool.false_ne_true]
    unfold farewells
    rw [hends, happly, ih, if_neg Bool.false_ne_true, List.nil_append]

/-- How many events were drained changes nothing but the answer to a drain. -/
theorem Engine.act_counting (e : Engine) (more n : Nat) (op : Operation) :
    (e.act (more + n) op : HostM H _) = (fun r => (r.1.counting more, r.2)) <$> e.act n op := by
  cases op <;> rfl

/-- Two passages are the same, except that the first one counts some more events. -/
structure Passage.Echoes (more : Nat) (p q : Passage H) : Prop where
  entries : p.entries = q.entries
  engine : p.finish.engine = q.finish.engine
  answer : p.answer = q.answer.map (Answer.counting more)

section Stale

variable {extra : List Notice} {a b : Situation H} (h : a.Stale extra b)

include h

theorem Situation.Stale.left : a.session.Listening := by
  obtain ⟨waiting, hw, -⟩ := h.waits
  exact ⟨_, hw⟩

theorem Situation.Stale.right : b.session.Listening := by
  obtain ⟨waiting, -, hw⟩ := h.waits
  exact ⟨_, hw⟩

/-- The host changes in both. -/
theorem Situation.Stale.rests (change : H.State → H.State) (notices : List Notice) :
    let p : Passage H := ⟨a, .meanwhile change notices⟩
    let q : Passage H := ⟨b, .meanwhile change notices⟩
    p.Echoes extra.length q ∧ p.finish.Stale extra q.finish := by
  intro p q
  obtain ⟨hanswer, hp, hp'⟩ := Passage.rested (p := p) rfl
  obtain ⟨hanswer', hq, hq'⟩ := Passage.rested (p := q) rfl
  obtain ⟨waiting, hw, hw'⟩ := h.waits
  refine ⟨⟨?_, ?_, ?_⟩, ⟨?_, ?_, ⟨waiting ++ notices, ?_, ?_⟩, ?_⟩⟩
  · rw [Passage.entries_rested (p := p) h.left rfl, Passage.entries_rested (p := q) h.right rfl]
  · rw [hp, hq]
    exact h.engine
  · rw [hanswer, hanswer']
    rfl
  · rw [hp, hq]
    exact h.engine
  · rw [hp', hq', Passage.meanwhile_host, Passage.meanwhile_host]
    exact congrArg change h.host
  · rw [hp', (Passage.meanwhile_mailbox _ hw change notices).1, List.append_assoc]
  · rw [hq', (Passage.meanwhile_mailbox _ hw' change notices).1]
  · rw [hq]
    exact h.untracked

/-- Whether they are drained or not, the additional events end nothing. -/
theorem Situation.Stale.heeds (op : Operation) :
    let p : Passage H := ⟨a, .perform op⟩
    let q : Passage H := ⟨b, .perform op⟩
    heeded a.engine p.consumed = heeded b.engine q.consumed ∧
      farewells a.engine.effects p.consumed = farewells b.engine.effects q.consumed := by
  intro p q
  obtain ⟨waiting, hw, hw'⟩ := h.waits
  change heeded a.engine (Conduct.consumed op a.session) = heeded b.engine (Conduct.consumed op b.session) ∧
    farewells a.engine.effects (Conduct.consumed op a.session) =
      farewells b.engine.effects (Conduct.consumed op b.session)
  unfold Conduct.consumed heeded
  rw [h.engine, hw, hw']
  rcases h.untracked with hnone | hnone
  · subst hnone
    exact ⟨rfl, rfl⟩
  · rw [hnone, heeding_nil, heeding_nil, farewells_nil, farewells_nil]
    exact ⟨rfl, rfl⟩

/-- If nothing is tracked, an operation that does not drain tracks nothing. -/
theorem Situation.Stale.untracked_next {op : Operation} (hd : drains op = false) :
    extra = [] ∨ (Passage.mk b (.perform op)).finish.engine.effects = [] := by
  refine h.untracked.imp_right fun hnone => ?_
  have hkept : (b.engine.act 0 op b.session).1.2.effects = b.engine.effects := by
    have heffects := Engine.act_effects (H := H) (e := b.engine) hd 0 b.engine.effects
    exact congrArg (fun m => (m b.session).1.2.effects) heffects
  change (b.engine.perform op b.session).1.2.effects = []
  rw [Engine.perform_of_not_drains hd 0, hkept, hnone]

/-- **An operation does the same in both.**  If it drains, that is the end of the additional events. -/
theorem Situation.Stale.performs (op : Operation) :
    let p : Passage H := ⟨a, .perform op⟩
    let q : Passage H := ⟨b, .perform op⟩
    p.Echoes extra.length q ∧ p.finish.Stale (if drains op then [] else extra) q.finish := by
  intro p q
  obtain ⟨waiting, hw, hw'⟩ := h.waits
  obtain ⟨t, ht⟩ := a.setsOut hw op
  obtain ⟨t', ht'⟩ := b.setsOut hw' op
  obtain ⟨hheeded, hfarewells⟩ := h.heeds op
  have hhost : t'.host = t.host := ht'.host.trans (h.host.symm.trans ht.host.symm)
  have hrun := ht.run
  have hrun' := ht'.run
  rw [hheeded, List.length_append, Engine.act_counting] at hrun
  obtain ⟨hresult, L, hL, hL', hend⟩ :=
    act_twins H.resembles_eq.respects (heeded b.engine q.consumed) waiting.length op t' t hhost
  generalize (heeded b.engine q.consumed).act waiting.length op = m at hrun hrun' hresult hL hL' hend
  have hp : p.finish = ⟨(m t').1.2, (m t).2⟩ := by
    -- the additional events are counted in the answer, which `finish` does not look at
    rw [← hresult]
    exact (Passage.finish_of_perform hrun).trans rfl
  have hq : q.finish = ⟨(m t').1.2, (m t').2⟩ := Passage.finish_of_perform hrun'
  have hleft : (if drains op then [] else extra ++ waiting) =
      (if drains op then [] else extra) ++ if drains op then [] else waiting := by
    split <;> rfl
  refine ⟨⟨?_, ?_, ?_⟩, ⟨?_, ?_, ⟨(if drains op then [] else waiting) ++
    H.reported t.host ((exchangesOf L).map Exchange.call), ?_, ?_⟩, ?_⟩⟩
  · rw [ht.entries L (hp ▸ hL'), ht'.entries L (hq ▸ hL), hfarewells]
  · rw [hp, hq]
  · rw [Passage.answer_of_perform hrun, Passage.answer_of_perform hrun', ← hresult]
    rfl
  · rw [hp, hq]
  · rw [hp, hq]
    exact hend.symm
  · rw [hp, hL'.mailbox ht.mailbox, hleft, List.append_assoc]
  · rw [hq, hL.mailbox ht'.mailbox, hhost]
  · cases hd : drains op with
    | true => exact .inl rfl
    | false => exact h.untracked_next hd

/-- **A step in both** is the same in both, and the first drain ends the difference. -/
theorem Situation.Stale.step (s : Step H) :
    let p : Passage H := ⟨a, s⟩
    let q : Passage H := ⟨b, s⟩
    p.Echoes extra.length q ∧ p.finish.Stale (if s.drains then [] else extra) q.finish := by
  cases s with
  | meanwhile change notices => exact h.rests change notices
  | perform op => exact h.performs op

/-- A whole run in both. -/
theorem Situation.Stale.run (steps : List (Step H)) :
    (a.after steps).Stale (if steps.any Step.drains then [] else extra) (b.after steps) := by
  induction steps generalizing extra a b with
  | nil => exact h
  | cons s rest ih =>
    have hrest := ih (h.step s).2
    rw [List.any_cons]
    cases hs : s.drains with
    | true =>
      rw [hs, if_pos rfl, ite_self] at hrest
      exact hrest
    | false =>
      rw [hs] at hrest
      exact hrest

end Stale

/-- What waits when nothing is tracked is stale. -/
theorem Situation.stale_hushed {now : Situation H} (hl : now.session.Listening)
    (hnone : now.engine.effects = []) : now.Stale now.session.mailbox.waiting now.hushed := by
  obtain ⟨waiting, hw⟩ := hl
  refine ⟨rfl, rfl, ⟨[], ?_, rfl⟩, .inr hnone⟩
  rw [hw, List.append_nil]
  rfl

/-! ## 5. A stage -/

namespace Stage

variable {id : SourceId} {s s' : State}

/-- Only the calls on a source count for it. -/
theorem sameSource_after (h : SameSource id s s') (A : List Call) :
    SameSource id (host.after s (callsOn id A)) (host.after s' A) := by
  induction A generalizing s s' with
  | nil => exact h
  | cons c A ih =>
    by_cases hc : c.source? = some id
    · have hkept : callsOn id (c :: A) = c :: callsOn id A :=
        List.filter_cons_of_pos (decide_eq_true hc)
      rw [hkept]
      exact ih (h.answer hc).2.2
    · have hskipped : callsOn id (c :: A) = callsOn id A :=
        List.filter_cons_of_neg fun hnames => hc (of_decide_eq_true hnames)
      rw [hskipped]
      exact ih (h.trans (sameSource_answer hc s'))

/-- **A stage answers each source on its own.** -/
theorem answersApart (s : State) : host.AnswersApart s := by
  intro id c hc A B hAB
  have hA : SameSource id (host.after s (callsOn id A)) (host.after s A) :=
    sameSource_after ⟨rfl, rfl⟩ A
  have hB : SameSource id (host.after s (callsOn id A)) (host.after s B) := by
    rw [hAB]
    exact sameSource_after ⟨rfl, rfl⟩ B
  obtain ⟨hreply, hnotices, -⟩ := hA.answer hc
  obtain ⟨hreply', hnotices', -⟩ := hB.answer hc
  exact ⟨hreply.trans hreply'.symm, hnotices.trans hnotices'.symm⟩

end Stage

/-! ## 6. To stop everything -/

/-- What it is to stop everything: all events that wait are heeded, then the track is halted, then each
effect that is still tracked, in the order of the visits.  No source is halted twice, none is left out,
and an effect that an event has ended is left in peace.  Nothing is left in the slot and nothing is
tracked; everything else is as it was. -/
structure Passage.StopsEach (p : Passage H) (order : VisitOrder) : Prop where
  drained : p.consumed = p.start.session.mailbox.waiting
  entries : ∃ L K, p.entries = farewells p.start.engine.effects p.consumed ++ (L ++ K) ∧
    StoppingMusic p.start.engine.music L ∧ HaltingEach (order.arrange p.unfinished) K
  nodup : (p.row order).Nodup
  halted : ∀ id ∈ p.row order, HaltedOnce id p.exchanges
  only : ∀ x ∈ p.exchanges, ∃ id ∈ p.row order, x.call.Halts id
  spared : ∀ id, p.start.engine.effects.tracks id = true → p.Finishes id →
    ∀ x ∈ p.exchanges, x.call.source? ≠ some id
  finish : p.finish.engine = { p.start.engine with effects := [], music := none }
  waits : p.finish.session.mailbox.waiting = p.arrivals

/-- Two passages tell each source the same and are told the same; only the order in which they turn to
the sources may differ, and with it the order of the events that wait in the end. -/
structure Passage.UpToOrder (p q : Passage H) : Prop where
  answer : p.answer = q.answer
  engine : p.finish.engine = q.finish.engine
  told : ∀ id, p.exchanges.filter (fun x => x.call.names id) =
    q.exchanges.filter fun x => x.call.names id
  waits : p.finish.session.mailbox.waiting.Perm q.finish.session.mailbox.waiting

section Everything

variable {now : Situation H} (hl : now.session.Listening)

include hl

theorem Passage.stopsEach (hs : now.engine.roster.Sound) (order : VisitOrder) :
    Passage.StopsEach ⟨now, .perform (.stopAll order)⟩ order := by
  generalize hp : (⟨now, .perform (.stopAll order)⟩ : Passage H) = p
  have hstart : p.start = now := by rw [← hp]
  have hstep : p.step = .perform (.stopAll order) := by rw [← hp]
  rw [← hstart] at hl hs
  obtain ⟨L, K, hent, -, hL, hK, -, hfinish⟩ := Passage.stops hl hstep
  obtain ⟨hhalted, honly⟩ := Passage.haltsRow hl hstep hs
  have hdrained : p.consumed = p.start.session.mailbox.waiting := by
    unfold Passage.consumed
    rw [hstep]
    rfl
  refine ⟨hdrained, ⟨L, K, hent, hL, hK⟩, Passage.row_nodup hs order, hhalted, honly, ?_, hfinish, ?_⟩
  · intro id ht hf x hx hsource
    obtain ⟨i, hi, hx⟩ := honly x hx
    have hsame : i = id := Option.some.inj (hx.source?.symm.trans hsource)
    exact Passage.not_mem_row hs order ht hf (hsame ▸ hi)
  · rw [Passage.waiting_finish hl, hdrained, List.drop_length]
    rfl

/-- **The order of the visits cannot be told**, over a host that answers each source on its own. -/
theorem Passage.stops_upToOrder (hs : now.engine.roster.Sound)
    (hA : H.AnswersApart now.session.host) (order order' : VisitOrder) :
    Passage.UpToOrder ⟨now, .perform (.stopAll order)⟩ ⟨now, .perform (.stopAll order')⟩ := by
  obtain ⟨hX, hwaiting⟩ := Situation.stops_apart hl hs hA order
  obtain ⟨hX', hwaiting'⟩ := Situation.stops_apart hl hs hA order'
  obtain ⟨-, -, -, -, -, -, hanswer, hengine⟩ :=
    Passage.stops (p := ⟨now, .perform (.stopAll order)⟩) hl rfl
  obtain ⟨-, -, -, -, -, -, hanswer', hengine'⟩ :=
    Passage.stops (p := ⟨now, .perform (.stopAll order')⟩) hl rfl
  have hperm := Passage.row_perm ⟨now, .perform (.stopAll order)⟩ order order'
  refine ⟨hanswer.trans hanswer'.symm, hengine.trans hengine'.symm, ?_, ?_⟩
  · intro id
    have hnames : ∀ x : Exchange, x.call.names id = true → x.call.source? = some id :=
      fun _ => of_decide_eq_true
    have hvisit : ∀ i, ∀ x ∈ H.halting now.session.host i, x.call.source? = some i := by
      intro i x hx
      exact halting_names now.session.host i _ (List.mem_map_of_mem hx)
    rw [hX, hX', filter_visits (Passage.row_nodup hs order) (fun i _ => hvisit i) hnames,
      filter_visits (Passage.row_nodup hs order') (fun i _ => hvisit i) hnames]
    exact if_congr hperm.mem_iff rfl rfl
  · rw [hwaiting, hwaiting']
    exact hperm.flatMap_right _

/-- Where there is nothing to stop, nothing is done. -/
theorem Passage.stops_nothing (heffects : now.engine.effects = []) (hmusic : now.engine.music = none)
    (order : VisitOrder) :
    let p : Passage H := ⟨now, .perform (.stopAll order)⟩
    p.entries = [] ∧ p.finish.engine = now.engine := by
  intro p
  obtain ⟨L, K, hent, -, hL, hK, -, hfinish⟩ := Passage.stops (p := p) hl rfl
  have hstart : p.start.engine = now.engine := rfl
  have hnone : p.unfinished = [] := by
    unfold Passage.unfinished
    rw [hstart, heffects]
    rfl
  have harranged : order.arrange [] = [] := (order.perm []).eq_nil
  rw [hnone, harranged] at hK
  rw [hstart, hmusic] at hL
  cases hL
  cases hK
  rw [hstart, heffects, farewells_nil] at hent
  refine ⟨hent, ?_⟩
  rw [hfinish, hstart, ← heffects, ← hmusic]

end Everything

/-- **Everything comes to a standstill.**  Over every host, from every configuration and after every
run, let everything be stopped, in any order.  Then:

* it is stopped source by source, as `Passage.StopsEach` says, whatever the host answers;
* if the host answers each source on its own, the order of the visits makes no difference to what any
  source is told, to the engine, or to the events that come in, up to their order;
* these events make no difference to any step of any later run, but for the count that the first drain
  may tell;
* and to stop everything once more does nothing at all. -/
theorem everything_stops (settings : Settings) (host : H.State) (steps : List (Step H))
    (order : VisitOrder) :
    let now : Situation H := (Situation.opening settings host).after steps
    let p : Passage H := ⟨now, .perform (.stopAll order)⟩
    p.StopsEach order ∧
    (H.AnswersApart now.session.host →
      ∀ order', p.UpToOrder ⟨now, .perform (.stopAll order')⟩) ∧
    (∀ more step,
      Passage.Echoes (if more.any Step.drains then 0 else p.arrivals.length)
        ⟨p.finish.after more, step⟩ ⟨p.finish.hushed.after more, step⟩) ∧
    ∀ order', let again : Passage H := ⟨p.finish, .perform (.stopAll order')⟩
      again.entries = [] ∧ again.finish.engine = p.finish.engine := by
  intro now p
  have hl : now.session.Listening := after_listening (opening_listening settings host) steps
  have hs : now.engine.roster.Sound := after_sound settings host steps
  have hstops : p.StopsEach order := Passage.stopsEach hl hs order
  have hl' : p.finish.session.Listening := Passage.finish_listening (p := p) hl
  have heffects : p.finish.engine.effects = [] := by
    rw [hstops.finish]
  have hmusic : p.finish.engine.music = none := by
    rw [hstops.finish]
  refine ⟨hstops, fun hA order' => Passage.stops_upToOrder hl hs hA order order', ?_, ?_⟩
  · intro more step
    have hstale := Situation.stale_hushed hl' heffects
    rw [hstops.waits] at hstale
    have hechoes := ((hstale.run more).step step).1
    rwa [apply_ite List.length] at hechoes
  · intro order'
    exact Passage.stops_nothing hl' heffects hmusic order'

/-- On a stage: a track and three effects, of which the second cannot be paused and the last has ended
by itself.  To stop them the newest first is to halt the second effect before the first, and leaves two
events of pauses. -/
theorem everything_stops_stage :
    let plays (name : String) : Step Stage.host := .perform (.playEffect { name })
    let ends : Step Stage.host :=
      .meanwhile (fun s => (Stage.finish s ⟨4⟩).1) (Stage.finish { script := {} } ⟨4⟩).2
    let steps := [.perform (.playMusic { name := "march" }), plays "chime", plays "bell",
      plays "gong", ends]
    let host : Stage.host.State := { script := { pauseFails := [3] } }
    let now : Situation Stage.host := (Situation.opening .standard host).after steps
    let order : VisitOrder := ⟨List.reverse, List.reverse_perm⟩
    let p : Passage Stage.host := ⟨now, .perform (.stopAll order)⟩
    p.row order = [⟨1⟩, ⟨3⟩, ⟨2⟩] ∧ p.arrivals.length = 2 ∧ p.StopsEach order ∧
      p.UpToOrder ⟨now, .perform (.stopAll .oldestFirst)⟩ := by
  intro plays ends steps host now order p
  have hrow : p.row order = [⟨1⟩, ⟨3⟩, ⟨2⟩] := by decide +kernel
  have hcount : p.arrivals.length = 2 := by decide +kernel
  obtain ⟨hstops, horder, -⟩ := everything_stops (H := Stage.host) .standard host steps order
  exact ⟨hrow, hcount, hstops, horder (Stage.answersApart _) .oldestFirst⟩

end SoundEngine
