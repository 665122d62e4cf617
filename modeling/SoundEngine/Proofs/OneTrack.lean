import Mathlib.Data.List.Infix
import SoundEngine.Proofs.SourceProtocol
import SoundEngine.Proofs.MusicSlot
import SoundEngine.Simulation.BareSource

/-!
# One track at a time

A new track is not even asked for before the track in the slot has been told to stop.  So, at every
point of the calls of a run and not only between operations, at most one of the sources that were
built to play music has not been given up (`one_track`).

* §1 says what it is to be given up, and that the dossier of a track which is out of the slot shows
  it, exactly once.
* §2 follows the tracks along the moves of a run.  A cut through the calls falls into the middle of
  one move, and there is only one track that it can find unreleased: the one in the slot, or, if the
  slot is empty, the one that the move builds.
* §3 draws the conclusion for what can be heard, with a host in which sources play and stop by
  their calls alone.  Here no state of the engine helps, for the host goes through its states
  within an operation; what helps is that no source is asked to play after its pause.
-/

namespace SoundEngine

variable {H : Host}

/-! ## 1. Given up -/

/-- The source was built to play music.  An effect may play the same media, and is no track. -/
def IsTrack (history : List (Passage H)) (id : SourceId) : Prop :=
  ∃ request, Made history id (.playMusic request)

/-- The source has been given up: its pause failed, or it was told to go back to its beginning after
the pause. -/
def Released (id : SourceId) (A : List Exchange) : Prop :=
  (∃ failure, (⟨.pause id, .error failure⟩ : Exchange) ∈ A) ∨
    ((⟨.pause id, .ok ()⟩ : Exchange) ∈ A ∧ ∃ reply, (⟨.seek id .zero, reply⟩ : Exchange) ∈ A)

/-- The source was built and has not been given up: it was never halted, or its halt is still under
way. -/
def Unreleased (id : SourceId) (A : List Exchange) : Prop := Built id A ∧ ¬ Released id A

/-- The call is about the playback of the source: whether it plays, from where on. -/
def Call.isPlayback (id : SourceId) : Call → Bool
  | .isPaused i | .play i | .pause i | .seek i _ => i == id
  | _ => false

/-- The call moves the source to a position. -/
def Call.seeks (id : SourceId) : Call → Bool
  | .seek i _ => i == id
  | _ => false

/-- The source was paused once, and then sent back to its beginning, once, if and only if the pause
succeeded.  Whether it got there is not asked: nothing more can be done about it. -/
def HaltedOnce (id : SourceId) (A : List Exchange) : Prop :=
  ∃ reply, A.filter (fun x => x.call = .pause id) = [⟨.pause id, reply⟩] ∧
    (A.filter fun x => x.call.seeks id).map Exchange.call =
      if reply.isOk then [.seek id .zero] else []

theorem Released.mono {id : SourceId} {A B : List Exchange} (h : Released id A)
    (hAB : ∀ x ∈ A, x ∈ B) : Released id B := by
  rcases h with ⟨failure, h⟩ | ⟨h, reply, h'⟩
  · exact .inl ⟨failure, hAB _ h⟩
  · exact .inr ⟨hAB _ h, reply, hAB _ h'⟩

section Courses

variable {id : SourceId} {request : MusicRequest} {X Y D A : List Exchange}

theorem Halt.released (h : Halt id Y) : Released id Y := by
  cases h with
  | notPaused failure => exact .inl ⟨failure, List.mem_cons_self⟩
  | paused reply =>
    exact .inr ⟨List.mem_cons_self, reply, List.mem_cons_of_mem _ List.mem_cons_self⟩

theorem RoutingAttempt.calls {attached : Bool} (h : RoutingAttempt id attached X) :
    ∀ x ∈ X, x.call.isRouting id = true := by
  cases h <;> simp [Call.isRouting, Call.isWiring]

theorem Fallback.calls {attached : Bool} (h : Fallback id attached X) :
    ∀ x ∈ X, x.call.isRouting id = true := by
  cases h <;> simp [Call.isRouting]

/-- What opens the dossier of a track asks it to play at the very end, and does not halt it. -/
theorem Opening.calls (h : Opening id (request.levels id) X) :
    ∃ I reply, X = I ++ [⟨.play id, reply⟩] ∧
      ∀ x ∈ I, x.call ≠ .play id ∧ x.call ≠ .pause id ∧ x.call.seeks id = false := by
  have hrouting : ∀ {R : List Exchange}, (∀ x ∈ R, x.call.isRouting id = true) →
      ∀ x ∈ R, x.call ≠ .play id ∧ x.call ≠ .pause id ∧ x.call.seeks id = false := by
    intro R hR x hx
    have hr := hR x hx
    obtain ⟨call, reply⟩ := x
    cases call with
    | play | pause | seek => exact absurd hr Bool.false_ne_true
    | _ => simp [Call.seeks]
  cases h with
  | @opened address mode attached A F hA hF reply =>
    refine ⟨⟨.createSource id address mode, .ok ()⟩ :: ⟨.setPreload id true, ()⟩ ::
      (request.levels id ++ (A ++ F)), reply, by simp, ?_⟩
    simp only [List.forall_mem_cons, List.forall_mem_append]
    refine ⟨by simp [Call.seeks], by simp [Call.seeks], ?_, hrouting hA.calls, hrouting hF.calls⟩
    simp [MusicRequest.levels, Call.seeks]

/-- A track that has not been halted was neither paused nor moved. -/
theorem MusicCourse.unhalted (h : MusicCourse id request false D) :
    ∀ x ∈ D, x.call ≠ .pause id ∧ x.call.seeks id = false := by
  generalize hb : false = halted at h
  induction h with
  | opened h =>
    obtain ⟨I, reply, rfl, hI⟩ := h.calls
    rw [List.forall_mem_append]
    exact ⟨fun x hx => (hI x hx).2, by simp [Call.seeks]⟩
  | resumed _ hY ih =>
    rw [List.forall_mem_append]
    refine ⟨ih hb, ?_⟩
    cases hY <;> simp [Call.seeks]
  | halted => exact absurd hb Bool.false_ne_true

theorem MusicCourse.released (h : MusicCourse id request true D) : Released id D := by
  cases h with
  | halted _ hY => exact hY.released.mono fun _ hx => List.mem_append_right _ hx

theorem MusicCourse.haltedOnce (h : MusicCourse id request true D) : HaltedOnce id D := by
  cases h with
  | @halted X Y h hY =>
    have hX := h.unhalted
    have hpauses : X.filter (fun x => x.call = .pause id) = [] :=
      List.filter_eq_nil_iff.mpr fun x hx => by simpa using (hX x hx).1
    have hseeks : X.filter (fun x => x.call.seeks id) = [] :=
      List.filter_eq_nil_iff.mpr fun x hx => by simpa using (hX x hx).2
    unfold HaltedOnce
    rw [List.filter_append, List.filter_append, hpauses, hseeks]
    cases hY with
    | notPaused failure => exact ⟨.error failure, by simp [Call.seeks, Except.isOk, Except.toBool]⟩
    | paused reply => exact ⟨.ok (), by simp [Call.seeks, Except.isOk, Except.toBool]⟩

/-- A source is not asked to play after it was paused, and not built after it was asked to play. -/
def Orderly (id : SourceId) (x y : Exchange) : Prop :=
  (x.call = .pause id → y.call ≠ .play id) ∧
    (x.call = .play id → ∀ address mode, y.call ≠ .createSource id address mode)

theorem MusicCourse.orderly {halted : Bool} (h : MusicCourse id request halted D) :
    D.Pairwise (Orderly id) := by
  have hjoin : ∀ {X Y}, MusicCourse id request false X → X.Pairwise (Orderly id) →
      Y.Pairwise (Orderly id) → (∀ y ∈ Y, y.call.isPlayback id = true) →
      (X ++ Y).Pairwise (Orderly id) := by
    intro X Y hX hpX hpY hY
    refine List.pairwise_append.mpr ⟨hpX, hpY, fun x hx y hy => ?_⟩
    refine ⟨fun hpause => absurd hpause (hX.unhalted x hx).1, fun _ address mode hcreate => ?_⟩
    have hplayback := hY y hy
    rw [hcreate] at hplayback
    exact absurd hplayback Bool.false_ne_true
  induction h with
  | opened h =>
    obtain ⟨I, reply, rfl, hI⟩ := h.calls
    have hmute : ∀ x ∈ I, ∀ y, Orderly id x y := fun x hx y =>
      ⟨fun hpause => absurd hpause (hI x hx).2.1, fun hplay => absurd hplay (hI x hx).1⟩
    refine List.pairwise_append.mpr ⟨?_, List.pairwise_singleton _ _, fun x hx y _ => hmute x hx y⟩
    exact List.pairwise_of_forall_mem_list fun x hx y _ => hmute x hx y
  | resumed h hY ih =>
    refine hjoin h ih ?_ ?_
    · cases hY <;> simp [Orderly]
    · cases hY <;> simp [Call.isPlayback]
  | halted h hY ih =>
    refine hjoin h ih ?_ ?_
    · cases hY <;> simp [Orderly]
    · cases hY <;> simp [Call.isPlayback]

/-- The order in a dossier is that of the whole run. -/
theorem orderly_of_dossier (h : (dossier id X).Pairwise (Orderly id)) :
    X.Pairwise (Orderly id) := by
  have hfilter := h.filter (Exchange.tells id)
  rw [filter_dossier fun _ h => h, List.pairwise_filter] at hfilter
  refine hfilter.imp fun {x y} hxy => ⟨fun hx hy => ?_, fun hx address mode hy => ?_⟩
  · have htold : x.tells id = true ∧ y.tells id = true := by
      rw [Exchange.tells_iff, Exchange.tells_iff, hx, hy]
      exact ⟨⟨rfl, rfl⟩, rfl, rfl⟩
    exact (hxy htold.1 htold.2).1 hx hy
  · have htold : x.tells id = true ∧ y.tells id = true := by
      rw [Exchange.tells_iff, Exchange.tells_iff, hx, hy]
      exact ⟨⟨rfl, rfl⟩, rfl, rfl⟩
    exact (hxy htold.1 htold.2).2 hx address mode hy

/-- How often a source was halted can be read off its dossier. -/
theorem haltedOnce_of_dossier (h : HaltedOnce id (dossier id X)) : HaltedOnce id X := by
  have hpauses : (dossier id X).filter (fun x => x.call = .pause id)
      = X.filter fun x => x.call = .pause id := by
    refine filter_dossier (fun x hx => ?_) X
    rw [Exchange.tells_iff, of_decide_eq_true hx]
    exact ⟨rfl, rfl⟩
  have hseeks : (dossier id X).filter (fun x => x.call.seeks id)
      = X.filter fun x => x.call.seeks id := by
    refine filter_dossier (fun x hx => Exchange.tells_iff.mpr ?_) X
    obtain ⟨call, reply⟩ := x
    cases call with
    | seek i position => exact ⟨congrArg some (beq_iff_eq.mp hx), rfl⟩
    | _ => exact absurd hx Bool.false_ne_true
  unfold HaltedOnce at h ⊢
  rw [hpauses, hseeks] at h
  exact h

end Courses

/-! ## 2. Along the moves -/

section Moves

variable {made : SourceId → Operation → Prop} {id : SourceId} {request : MusicRequest}
  {A C D : List Exchange} {r : Roster}

/-- By its account, a track that is built and not given up is in the slot. -/
theorem Account.current {standing : Standing} (h : Account made id standing D)
    (huniq : ∀ op, made id op → op = .playMusic request) (hu : Unreleased id D) :
    standing = .music := by
  obtain ⟨⟨address, mode, hbuilt⟩, hunreleased⟩ := hu
  cases h with
  | music => rfl
  | unborn => exact absurd hbuilt List.not_mem_nil
  | never => exact absurd hbuilt List.not_mem_nil
  | refused => exact absurd (List.mem_singleton.mp hbuilt) (by simp)
  | effect hm => exact absurd (huniq _ hm) (by simp)
  | pastEffect hm => exact absurd (huniq _ hm) (by simp)
  | pastMusic _ h => exact absurd h.released hunreleased

/-- **The one track.**  Where the calls of some moves are cut, a track that is built and not given
up is in the slot, or the slot is empty and the track is being built. -/
theorem Moves.current (h : Moves made .opening (A ++ C) r)
    (huniq : ∀ id op op', made id op → made id op' → op = op') :
    ∃ r₁ : Roster, ∀ id request, made id (.playMusic request) → Unreleased id A →
      r₁.music = some id ∨ (r₁.music = none ∧ id = r₁.fresh) := by
  obtain ⟨A, B, C, r₁, r₂, rfl, hA, hB⟩ := h.split
  refine ⟨r₁, fun id request hm hu => ?_⟩
  rcases built_append.mp hu.1 with hb | hb
  · -- built before the move that is cut: its account tells
    have hdossier : Unreleased id (dossier id A) := by
      refine ⟨hb.dossier, fun hr => hu.2 (hr.mono fun x hx => ?_)⟩
      exact List.mem_append_left B ((dossier_sublist id A).mem hx)
    have hstanding := (hA.account_of_opening id).current (fun op hop => huniq id _ _ hop hm)
      hdossier
    exact .inl (Roster.music_of_standing hstanding)
  · -- built by the move that is cut
    obtain ⟨hfresh, -, heffect | hmusic⟩ := hB.of_built (hb.append_left C)
    · obtain ⟨request', hm'⟩ := heffect
      exact absurd (huniq id _ _ hm hm') (by simp)
    · exact .inr ⟨hmusic.1, hfresh⟩

end Moves

/-- Of the parts of a list that a single element of a kind divides, the first one is determined. -/
theorem cut_unique {α : Type} {P : α → Prop} {B C L K : List α} {x a : α}
    (h : B ++ x :: C = L ++ a :: K) (hx : P x) (hL : ∀ y ∈ L, ¬ P y) (hK : ∀ y ∈ K, ¬ P y) :
    B = L := by
  rcases List.append_eq_append_iff.mp h with ⟨M, rfl, hM⟩ | ⟨M, rfl, hM⟩
  · cases M with
    | nil => exact (List.append_nil B).symm
    | cons y M =>
      obtain ⟨rfl, -⟩ := List.cons.inj hM
      exact absurd hx (hL x (List.mem_append_right B List.mem_cons_self))
  · cases M with
    | nil => exact List.append_nil L
    | cons y M =>
      obtain ⟨rfl, rfl⟩ := List.cons.inj hM
      exact absurd hx (hK x (List.mem_append_right M List.mem_cons_self))

namespace Conduct

/-- A new track begins with the attempt to build its source, and there is no other one. -/
theorem beginning_head {supply supply' : Supply} {m : Mixer} {page : Option Url}
    {address : String} {request : MusicRequest} {outcome : MusicOutcome} {music : Music}
    {K : List Entry} (h : Beginning supply m page address request (outcome, supply', music) K) :
    ∃ a K', exchangesOf K = a :: K' ∧ ∀ y ∈ K', ¬ y.attempts = true := by
  obtain ⟨reply, hattempts, -⟩ := beginning_attempts h
  have hhead : ∃ reply K', exchangesOf K =
      ⟨.createSource supply.nextId address (.of page address), reply⟩ :: K' := by
    cases h with
    | failed hL =>
      rw [exchangesOf_append, (creating_error hL).2]
      exact ⟨_, _, rfl⟩
    | started hL =>
      obtain ⟨rfl, -, hX⟩ := creating_ok hL
      rw [exchangesOf_append, hX]
      exact ⟨_, _, rfl⟩
  obtain ⟨reply', K', hK⟩ := hhead
  rw [hK, List.filter_cons_of_pos rfl] at hattempts
  exact ⟨_, K', hK, List.filter_eq_nil_iff.mp (List.cons.inj hattempts).2⟩

end Conduct

/-- **Stop before replace.**  Before a request for music asks for a source, the track in the slot
has been halted, once. -/
theorem haltedOnce_of_attempt (settings : Settings) (host : H.State) {steps : List (Step H)}
    {p : Passage H} (hp : p ∈ (Situation.opening settings host).history steps)
    {request : MusicRequest} (h : p.step = .perform (.playMusic request)) {t : Track}
    (ht : p.start.engine.music = some t) {B C : List Exchange} {x : Exchange}
    (hX : p.exchanges = B ++ x :: C) (hx : x.attempts = true) :
    HaltedOnce t.source (exchangesOf p.start.session.chronicle ++ B) := by
  have hl := listening_of_mem_history (opening_listening settings host) hp
  obtain ⟨most, rest, -, hstart⟩ := mem_history hp
  have haccount := (trace_moves settings host most).account_of_opening t.source
  have hs := after_sound settings host most
  rw [← hstart] at haccount hs
  have hmusic : p.start.engine.roster.music = some t.source := congrArg (Option.map Track.source) ht
  rw [Roster.standing_music hs hmusic] at haccount
  obtain ⟨request', -, hcourse⟩ := haccount.of_music
  obtain ⟨answer, L, -, hL, hA⟩ := Passage.acted hl h
  rw [hL] at hX
  generalize p.finish.engine = e' at hA
  cases hA with
  | playMusic hplay =>
    cases hplay with
    | skipped => exact absurd hX (by simp)
    | answered _ _ _ hresume =>
      have hnone := List.filter_eq_nil_iff.mp (Conduct.resuming_attempts hresume) x
      rw [hX] at hnone
      exact absurd hx (hnone (List.mem_append_right B List.mem_cons_self))
    | @replaced _ _ _ _ L K hstop hK =>
      have hstop' : Conduct.StoppingMusic (some t) L := ht ▸ hstop
      obtain ⟨a, K', hK', hnone⟩ := Conduct.beginning_head hK
      rw [exchangesOf_append, hK'] at hX
      -- nothing before the attempt of the new track is an attempt, so the cut is where the halt ends
      have hB : B = exchangesOf L := cut_unique hX.symm hx
        (List.filter_eq_nil_iff.mp (Conduct.stoppingMusic_attempts hstop')) hnone
      cases hstop' with
      | @stopped _ L hhalt =>
        have hL' : exchangesOf (L ++ [.record (.musicStopped t.source t.name)])
            = exchangesOf L := by
          rw [exchangesOf_append]
          exact List.append_nil _
        rw [hB, hL']
        refine haltedOnce_of_dossier ?_
        rw [dossier_append (Conduct.halting_block hhalt), if_pos rfl]
        exact (hcourse.halted (Conduct.halting_telling hhalt)).haltedOnce

/-! ## 3. What can be heard -/

/-- Sources play and stop by their calls alone: none starts but by asking it to play, and a pause
that succeeds stops its source. -/
structure Host.PlaysByCalls (H : Host) (playing : H.State → SourceId → Prop) : Prop where
  starts : ∀ c st id, playing (H.answer c st).2.2 id →
    playing st id ∨ (c = .play id ∧ (H.answer (.play id) st).1 = .ok ())
  stops : ∀ id st, (H.answer (.pause id) st).1 = .ok () →
    ¬ playing (H.answer (.pause id) st).2.2 id

/-- The states that a host goes through while it answers the calls of some exchanges. -/
def Host.states (H : Host) (host : H.State) (X : List Exchange) : List H.State :=
  X.inits.map fun A => H.after host (A.map Exchange.call)

/-- The states that the host goes through in a run, from the building of the engine on: before and
after every call, and after every rest. -/
def moments (settings : Settings) (host : H.State) (steps : List (Step H)) : List H.State :=
  let start : Situation H := .opening settings host
  H.states host (exchangesOf start.session.chronicle) ++
    (start.history steps).flatMap (fun p => H.states p.start.session.host p.exchanges) ++
    [(start.after steps).session.host]

/-- The source has been asked to play with success, and not been paused with success since. -/
def Sounding (id : SourceId) (A : List Exchange) : Prop :=
  ∃ P Q, A = P ++ ⟨.play id, .ok ()⟩ :: Q ∧ (⟨.pause id, .ok ()⟩ : Exchange) ∉ Q

/-- What plays in this state has been made to, by these exchanges. -/
def Heard (playing : H.State → SourceId → Prop) (st : H.State) (A : List Exchange) : Prop :=
  ∀ id, playing st id → Sounding id A

section Heard

variable {playing : H.State → SourceId → Prop} {A : List Exchange}

theorem Heard.ask {st : H.State} (hplays : H.PlaysByCalls playing) (h : Heard playing st A)
    (c : Call) : Heard playing (H.answer c st).2.2 (A ++ [⟨c, (H.answer c st).1⟩]) := by
  intro id hid
  rcases hplays.starts c st id hid with hbefore | ⟨rfl, hok⟩
  · obtain ⟨P, Q, rfl, hQ⟩ := h id hbefore
    refine ⟨P, Q ++ [⟨c, (H.answer c st).1⟩], by simp, fun hpause => ?_⟩
    rcases List.mem_append.mp hpause with hpause | hpause
    · exact hQ hpause
    · obtain ⟨rfl, hok⟩ := Exchange.mk.inj (List.mem_singleton.mp hpause)
      exact hplays.stops id st (eq_of_heq hok).symm hid
  · exact ⟨A, [], by rw [hok], List.not_mem_nil⟩

/-- Over the calls of a session, at each of them. -/
theorem Session.Unfolds.heard {s t : Session H} {L : List Entry} (hplays : H.PlaysByCalls playing)
    (h : s.Unfolds L t) : ∀ {A}, Heard playing s.host A → ∀ B, B <+: exchangesOf L →
      Heard playing (H.after s.host (B.map Exchange.call)) (A ++ B) := by
  induction h with
  | refl s =>
    intro A hA B hB
    rw [List.prefix_nil.mp hB, List.append_nil]
    exact hA
  | @ask s t L c _ ih =>
    intro A hA B hB
    cases B with
    | nil =>
      rw [List.append_nil]
      exact hA
    | cons x B =>
      obtain ⟨rfl, hmore⟩ := List.cons_prefix_cons.mp hB
      have hnext := hA.ask hplays c
      rw [← ask_host] at hnext
      have hrest := ih hnext B hmore
      rw [ask_host, List.append_assoc] at hrest
      exact hrest
  | log r _ ih => exact ih

theorem Passage.heard {p : Passage H} (hl : p.start.session.Listening)
    (hplays : H.PlaysByCalls playing)
    (hrest : ∀ change notices, p.step = .meanwhile change notices →
      ∀ st id, playing (change st) id → playing st id)
    (h : Heard playing p.start.session.host (exchangesOf p.start.session.chronicle)) :
    (∀ B, B <+: p.exchanges → Heard playing
      (H.after p.start.session.host (B.map Exchange.call))
      (exchangesOf p.start.session.chronicle ++ B)) ∧
    Heard playing p.finish.session.host (exchangesOf p.finish.session.chronicle) := by
  rw [chronicle_finish hl, exchangesOf_append]
  cases hstep : p.step with
  | meanwhile change notices =>
    have hX := exchanges_rested hl hstep
    have hhost : p.finish.session.host = change p.start.session.host := by
      obtain ⟨waiting, hw⟩ := hl
      rw [(rested hstep).2.2]
      change ({ p.start.session with host := change p.start.session.host }.deliver notices).host = _
      unfold Session.deliver
      simp [hw]
    change _ ∧ Heard playing _ (_ ++ p.exchanges)
    rw [hX, hhost, List.append_nil]
    refine ⟨fun B hB => ?_, fun id hid => h id (hrest change notices hstep _ id hid)⟩
    rw [List.prefix_nil.mp hB, List.append_nil]
    exact h
  | perform operation =>
    obtain ⟨answer, L, -, -, hU, -⟩ := performed hl hstep
    have hhost : (if Conduct.drains operation then Conduct.emptied p.start.session
        else p.start.session).host = p.start.session.host := by
      split <;> rfl
    have hheard := hU.heard hplays (hhost ▸ h)
    rw [hhost] at hheard
    refine ⟨hheard, ?_⟩
    rw [hU.host, hhost]
    exact hheard _ (List.prefix_refl _)

theorem heard_after {now : Situation H} (hl : now.session.Listening)
    (hplays : H.PlaysByCalls playing) {steps : List (Step H)}
    (hrest : ∀ change notices, Step.meanwhile change notices ∈ steps →
      ∀ st id, playing (change st) id → playing st id)
    (h : Heard playing now.session.host (exchangesOf now.session.chronicle)) :
    Heard playing (now.after steps).session.host
      (exchangesOf (now.after steps).session.chronicle) := by
  induction steps generalizing now with
  | nil => exact h
  | cons step rest ih =>
    refine ih (Passage.finish_listening (p := ⟨now, step⟩) hl)
      (fun change notices hmem => hrest change notices (List.mem_cons_of_mem _ hmem)) ?_
    refine (Passage.heard (p := ⟨now, step⟩) hl hplays (fun change notices hstep => ?_) h).2
    exact hrest change notices (hstep ▸ List.mem_cons_self)

/-- **At every moment of a run**, what plays has been made to by the calls so far. -/
theorem heard_of_mem_moments {settings : Settings} {host : H.State} {steps : List (Step H)}
    (hplays : H.PlaysByCalls playing) (hsilent : ∀ id, ¬ playing host id)
    (hrest : ∀ change notices, Step.meanwhile change notices ∈ steps →
      ∀ st id, playing (change st) id → playing st id)
    {st : H.State} (hst : st ∈ moments settings host steps) :
    ∃ A, A <+: exchangesOf ((Situation.opening settings host).after steps).session.chronicle ∧
      Heard playing st A := by
  let start : Situation H := .opening settings host
  have hl : start.session.Listening := opening_listening settings host
  have hunfolds := (opening_unfolds settings host).1
  have hfresh : Heard playing (Session.fresh host : Session H).host [] :=
    fun id hid => absurd hid (hsilent id)
  have hopening := hunfolds.heard hplays hfresh
  have hstart : Heard playing start.session.host (exchangesOf start.session.chronicle) := by
    rw [hunfolds.host]
    exact hopening _ (List.prefix_refl _)
  have hmost : ∀ most rest, steps = most ++ rest → Heard playing (start.after most).session.host
      (exchangesOf (start.after most).session.chronicle) := by
    rintro most rest rfl
    exact heard_after hl hplays
      (fun change notices hmem => hrest change notices (List.mem_append_left rest hmem)) hstart
  unfold moments at hst
  rcases List.mem_append.mp hst with hst | hst
  · rcases List.mem_append.mp hst with hst | hst
    · -- while the engine is built
      obtain ⟨B, hB, rfl⟩ := List.mem_map.mp hst
      have hprefix := (List.mem_inits _ _).mp hB
      refine ⟨B, ?_, hopening B hprefix⟩
      rw [trace_eq hl]
      exact hprefix.trans (List.prefix_append _ _)
    · -- in one of the passages
      obtain ⟨p, hp, hst⟩ := List.mem_flatMap.mp hst
      obtain ⟨B, hB, rfl⟩ := List.mem_map.mp hst
      have hprefix := (List.mem_inits _ _).mp hB
      have hlp := listening_of_mem_history hl hp
      obtain ⟨most, rest, rfl, hpstart⟩ := mem_history hp
      have hbefore := hmost most _ rfl
      rw [← hpstart] at hbefore
      have hheard := (Passage.heard hlp hplays (fun change notices hstep => hrest change notices
        (hstep ▸ List.mem_append_right most List.mem_cons_self)) hbefore).1 B hprefix
      refine ⟨_, ?_, hheard⟩
      rw [after_append, ← hpstart, trace_eq hlp]
      refine (List.prefix_append_right_inj _).mpr ?_
      exact hprefix.trans (List.prefix_append _ _)
  · rw [List.mem_singleton.mp hst]
    exact ⟨_, List.prefix_refl _, hmost steps [] (List.append_nil steps).symm⟩

/-- Where no pause fails, a track that has been made to play is not given up. -/
theorem unreleased_of_sounding {id : SourceId} {X : List Exchange} (hA : A <+: X)
    (horder : X.Pairwise (Orderly id)) (hbuilt : Built id X)
    (hpause : ∀ failure, (⟨.pause id, .error failure⟩ : Exchange) ∉ X) (h : Sounding id A) :
    Unreleased id A := by
  obtain ⟨C, rfl⟩ := hA
  obtain ⟨P, Q, rfl, hQ⟩ := h
  have hplay : (⟨.play id, .ok ()⟩ : Exchange) ∈ P ++ ⟨.play id, .ok ()⟩ :: Q :=
    List.mem_append_right P List.mem_cons_self
  obtain ⟨horderA, -, hcross⟩ := List.pairwise_append.mp horder
  refine ⟨?_, ?_⟩
  · rcases built_append.mp hbuilt with hb | ⟨address, mode, hb⟩
    · exact hb
    · exact absurd rfl ((hcross _ hplay _ hb).2 rfl address mode)
  · rintro (⟨failure, hf⟩ | ⟨hok, -⟩)
    · exact hpause failure (List.mem_append_left C hf)
    rcases List.mem_append.mp hok with hok | hok
    · obtain ⟨-, -, hcrossA⟩ := List.pairwise_append.mp horderA
      exact absurd rfl ((hcrossA _ hok _ List.mem_cons_self).1 rfl)
    rcases List.mem_cons.mp hok with hok | hok
    · exact absurd hok (by simp)
    · exact hQ hok

end Heard

/-! ## 4. All runs -/

/-- The dossier of a track follows the course of one. -/
theorem course_of_isTrack {settings : Settings} {host : H.State} {steps : List (Step H)}
    {id : SourceId} (h : IsTrack ((Situation.opening settings host).history steps) id) :
    let X := exchangesOf ((Situation.opening settings host).after steps).session.chronicle
    Built id X ∧ ∃ request halted, MusicCourse id request halted (dossier id X) := by
  intro X
  have hl := opening_listening settings host
  have hs := after_sound settings host []
  obtain ⟨request, hmade⟩ := h
  have hbuilt : Built id X := by
    obtain ⟨p, hp, -, address, mode, hx⟩ := hmade
    refine ⟨address, mode, ?_⟩
    change _ ∈ exchangesOf _
    rw [trace_eq hl]
    exact List.mem_append_right _ (List.mem_flatMap.mpr ⟨p, hp, hx⟩)
  refine ⟨hbuilt, ?_⟩
  rcases course_of_built settings host steps hbuilt with ⟨_, _, hm, -⟩ | ⟨request', halted, -, h⟩
  · exact absurd (made_unique hl hs hmade hm) (by simp)
  · exact ⟨request', halted, h⟩

/-- **One track at a time.**  Over every host, from every configuration and through every run:

* wherever the calls of the run are cut, at most one of the sources that were built to play music is
  not given up;
* before a request for music asks for a source, the track in the slot has been halted, exactly once;
* and if sources play and stop by their calls alone, none is played by the host itself while the
  engine rests, and no pause fails, then at every moment of the run at most one of them plays. -/
theorem one_track (settings : Settings) (host : H.State) (steps : List (Step H)) :
    let start : Situation H := .opening settings host
    let history := start.history steps
    let X := exchangesOf (start.after steps).session.chronicle
    (∀ A, A <+: X → ∀ i j, IsTrack history i → IsTrack history j →
      Unreleased i A → Unreleased j A → i = j) ∧
    (∀ p ∈ history, ∀ request t, p.step = .perform (.playMusic request) →
      p.start.engine.music = some t → ∀ B x C, p.exchanges = B ++ x :: C → x.attempts = true →
        HaltedOnce t.source (exchangesOf p.start.session.chronicle ++ B)) ∧
    ∀ playing : H.State → SourceId → Prop, H.PlaysByCalls playing → (∀ id, ¬ playing host id) →
      (∀ change notices, Step.meanwhile change notices ∈ steps →
        ∀ st id, playing (change st) id → playing st id) →
      (∀ id failure, (⟨.pause id, .error failure⟩ : Exchange) ∉ X) →
        ∀ st ∈ moments settings host steps, ∀ i j, IsTrack history i → IsTrack history j →
          playing st i → playing st j → i = j := by
  intro start history X
  have hunreleased : ∀ A, A <+: X → ∀ i j, IsTrack history i → IsTrack history j →
      Unreleased i A → Unreleased j A → i = j := by
    rintro A ⟨C, hX⟩ i j ⟨ri, hi⟩ ⟨rj, hj⟩ hui huj
    have hmoves := trace_moves settings host steps
    change Moves _ _ X _ at hmoves
    rw [← hX] at hmoves
    obtain ⟨r, hr⟩ := hmoves.current fun id op op' =>
      made_unique (opening_listening settings host) (after_sound settings host [])
    -- either both are in the slot, or the slot is empty and both are the one just made
    rcases hr i ri hi hui with hi | ⟨hempty, rfl⟩
    · rcases hr j rj hj huj with hj | ⟨hempty, -⟩
      · exact Option.some.inj (hi.symm.trans hj)
      · exact absurd (hi.symm.trans hempty) (by simp)
    · rcases hr j rj hj huj with hj | ⟨-, rfl⟩
      · exact absurd (hj.symm.trans hempty) (by simp)
      · rfl
  refine ⟨hunreleased, fun p hp request t h ht B x C => ?_, ?_⟩
  · exact haltedOnce_of_attempt settings host hp h ht
  · intro playing hplays hsilent hrest hpause st hst i j hi hj hpi hpj
    obtain ⟨A, hA, hheard⟩ := heard_of_mem_moments hplays hsilent hrest hst
    have hkept : ∀ id, IsTrack history id → playing st id → Unreleased id A := by
      intro id hid hplaying
      obtain ⟨hbuilt, request, halted, hcourse⟩ := course_of_isTrack hid
      exact unreleased_of_sounding hA (orderly_of_dossier hcourse.orderly) hbuilt (hpause id)
        (hheard id hplaying)
    exact hunreleased A hA i j hi hj (hkept i hi hpi) (hkept j hj hpj)

namespace Obliging

/-- A host that plays and pauses whatever it is told to, and answers all else like a source without
any graph.  Its state is what plays. -/
def host : Host where
  State := List SourceId
  answer
    | .play id, playing => (.ok (), [], id :: playing)
    | .pause id, playing => (.ok (), [], playing.filter (· ≠ id))
    | c, playing => ((BareSource.host.answer c { address := "" }).1, [], playing)

/-- The source plays. -/
def plays (playing : List SourceId) (id : SourceId) : Prop := id ∈ playing

theorem playsByCalls : host.PlaysByCalls plays where
  starts c st id h := by
    cases c with
    | play i =>
      rcases List.mem_cons.mp h with rfl | h
      · exact .inr ⟨rfl, rfl⟩
      · exact .inl h
    | pause i => exact .inl (List.mem_filter.mp h).1
    | _ => exact .inl h
  stops id st _ h := by
    have hne := (List.mem_filter.mp h).2
    exact absurd rfl (of_decide_eq_true hne)

end Obliging

/-- Two tracks, one after the other, on a host that refuses nothing. -/
theorem one_track_obliging :
    let steps : List (Step Obliging.host) :=
      [.perform (.playMusic ⟨"prelude", none⟩), .perform (.playMusic ⟨"fugue", none⟩)]
    ∀ st ∈ moments .standard [] steps, ∀ i j,
      IsTrack ((Situation.opening .standard []).history steps) i →
      IsTrack ((Situation.opening .standard []).history steps) j →
        Obliging.plays st i → Obliging.plays st j → i = j := by
  intro steps
  refine (one_track (H := Obliging.host) .standard [] steps).2.2 _ Obliging.playsByCalls ?_ ?_ ?_
  · exact fun id h => absurd h List.not_mem_nil
  · exact fun change notices h => absurd h (by simp [steps])
  · intro id failure h
    obtain ⟨st, hreply⟩ := trace_answered (H := Obliging.host) .standard [] steps _ h
    exact absurd hreply (by simp [Obliging.host])

end SoundEngine
