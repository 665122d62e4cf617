import Mathlib.Data.List.Induction
import SoundEngine.Proofs.Buses
import SoundEngine.Simulation.BareSource

/-!
# Nothing out of range reaches the host

Requests, settings and gains can carry any number, and not-a-number too.  Whatever they carry, no
call of the engine does: its gains and volumes are in `[0, 1]`, its rates in `[0.5, 2]`, its pans in
`[-1, 1]`, and it seeks nothing but the beginning.

Most calls carry what one clamp has let through (`Proofs.Levels`).  One does not: a source that
cannot be routed is scaled, and the volume that is scaled is the HOST'S answer.  That call is in range
because the source was told its volume a few calls earlier, in the same operation; so what a conduct
leaves is in range AFTER what came before, as far as volumes are kept (`Follows`, §2).  §3 goes through
the conducts, and §4 through the run.  In §5 a host keeps volumes by what is in its state.
-/

namespace SoundEngine

open Binary Level

variable {H : Host}

/-! ## 1. Ranges, and volumes that are kept -/

/-- What the call carries is in its range, and is a number: from 0 to 1 for a gain and a volume, from half
to double speed for a rate, from left to right for a pan.  A source is moved to its beginning only. -/
def Call.Ranged : Call → Prop
  | .createBus gain | .setBusGain _ gain => Within (whole 0) (whole 1) gain
  | .setVolume _ volume => Within (whole 0) (whole 1) volume
  | .setRate _ rate => Within half (whole 2) rate
  | .createPanner pan => Within (whole (-1)) (whole 1) pan
  | .seek _ position => position = .zero
  | _ => True

/-- The volume that the exchange sets the source to. -/
def Exchange.volume? (id : SourceId) (x : Exchange) : Option Single :=
  match x.call with
  | .setVolume other volume => if other = id then some volume else none
  | _ => none

/-- The volume that the source was set to last. -/
def lastVolume (id : SourceId) (X : List Exchange) : Option Single :=
  (X.filterMap (Exchange.volume? id)).getLast?

/-- Whenever the volume of a source is asked for, the answer is the one it was set to last. -/
def KeepsVolumes (X : List Exchange) : Prop :=
  ∀ A id volume B, X = A ++ ⟨.sourceVolume id, volume⟩ :: B →
    ∀ last, lastVolume id A = some last → volume = last

section Volumes

variable {A X Y : List Exchange} {id : SourceId}

theorem lastVolume_snoc (id : SourceId) (A : List Exchange) (x : Exchange) :
    lastVolume id (A ++ [x]) = (x.volume? id).or (lastVolume id A) := by
  unfold lastVolume
  rw [List.filterMap_append, List.getLast?_append]
  cases h : x.volume? id <;> simp [h]

/-- Calls that set no volume of the source leave the last one. -/
theorem lastVolume_append (A : List Exchange) (h : X.filterMap (Exchange.volume? id) = []) :
    lastVolume id (A ++ X) = lastVolume id A := by
  unfold lastVolume
  rw [List.filterMap_append, h, List.append_nil]

theorem lastVolume_levels (A : List Exchange) {volume : Single}
    (h : X.filterMap (Exchange.volume? id) = [volume]) : lastVolume id (A ++ X) = some volume := by
  unfold lastVolume
  rw [List.filterMap_append, h, List.getLast?_concat]

theorem KeepsVolumes.left (h : KeepsVolumes (X ++ Y)) : KeepsVolumes X := by
  intro A id volume B hX
  refine h A id volume (B ++ Y) ?_
  rw [hX, List.append_assoc, List.cons_append]

end Volumes

/-! ## 2. In range, after what came before -/

/-- As far as volumes are kept, the exchanges that follow are in range. -/
def Follows (A X : List Exchange) : Prop := KeepsVolumes (A ++ X) → ∀ x ∈ X, x.call.Ranged

section Follows

variable {A X Y : List Exchange}

theorem follows_of_ranged (A : List Exchange) (h : ∀ x ∈ X, x.call.Ranged) : Follows A X :=
  fun _ => h

theorem Follows.append (hX : Follows A X) (hY : Follows (A ++ X) Y) : Follows A (X ++ Y) := by
  intro hkeeps
  rw [← List.append_assoc] at hkeeps
  exact List.forall_mem_append.mpr ⟨hX hkeeps.left, hY hkeeps⟩

theorem follows_flatMap {α : Type} {l : List α} {f : α → List Exchange}
    (h : ∀ a ∈ l, ∀ A, Follows A (f a)) (A : List Exchange) : Follows A (l.flatMap f) := by
  induction l generalizing A with
  | nil => exact follows_of_ranged A (by simp)
  | cons a l ih =>
    rw [List.flatMap_cons]
    obtain ⟨ha, hl⟩ := List.forall_mem_cons.mp h
    exact (ha A).append (ih hl _)

/-- Calls about no source are in range if those on buses are. -/
theorem ranged_of_mixing (h : ∀ x ∈ X, x.call.isGeneral = true)
    (hmixing : ∀ x ∈ mixing X, x.call.Ranged) : ∀ x ∈ X, x.call.Ranged := by
  intro x hx
  have hgeneral := h x hx
  by_cases hm : x.call.isMixing = true
  · exact hmixing x (List.mem_filter.mpr ⟨hx, hm⟩)
  · obtain ⟨call, reply⟩ := x
    cases call with
    | pageAddress | supportsGraph | contextState | resume | awaitResume => trivial
    | createContext | createBus | setBusGain => exact absurd rfl hm
    | _ => exact absurd hgeneral Bool.false_ne_true

end Follows

/-! ## 3. The conducts -/

/-- All gains of the mixer are in their range. -/
def Mixer.Ranged (m : Mixer) : Prop := ∀ kind, Within (whole 0) (whole 1) (m.gain kind)

namespace Conduct

variable {id : SourceId} {m : Mixer} {page : Option Url}

theorem creating_ranged {supply : Supply} {address : String}
    {result : Except PlaybackFailure SourceId × Supply} {L : List Entry}
    (h : Creating supply page address result L) : ∀ x ∈ exchangesOf L, x.call.Ranged := by
  cases h <;> simp [Call.Ranged]

theorem starting_ranged {start : Start} {S : List Entry} (h : Starting id start S) :
    ∀ x ∈ exchangesOf S, x.call.Ranged := by
  cases h <;> simp [Call.Ranged]

theorem halting_ranged {L : List Entry} (h : Halting id L) : ∀ x ∈ exchangesOf L, x.call.Ranged := by
  cases h <;> simp [Call.Ranged]

theorem resuming_ranged {outcome : MusicOutcome} {L : List Entry} (h : Resuming id outcome L) :
    ∀ x ∈ exchangesOf L, x.call.Ranged := by
  cases h with
  | playing => simp [Call.Ranged]
  | paused hS => exact List.forall_mem_cons.mpr ⟨trivial, starting_ranged hS⟩

theorem chaining_ranged {bus : BusNode} {pan : Single} {result : Except GraphFailure Route}
    {L : List Entry} (h : Chaining id bus pan result L) : ∀ x ∈ exchangesOf L, x.call.Ranged := by
  cases h <;> simp [Call.Ranged, pan_within]

theorem attaching_ranged {kind : BusKind} {pan : Single} {routing : Routing} {L : List Entry}
    (h : Attaching m page id kind pan routing L) : ∀ x ∈ exchangesOf L, x.call.Ranged := by
  cases h with
  | noBus => simp
  | crossOrigin => simp [Call.Ranged]
  | attached _ _ hL => exact List.forall_mem_cons.mpr ⟨trivial, chaining_ranged hL⟩
  | failed _ _ hL => exact List.forall_mem_cons.mpr ⟨trivial, chaining_ranged hL⟩

theorem chaining_volume {bus : BusNode} {pan : Single} {result : Except GraphFailure Route}
    {L : List Entry} (h : Chaining id bus pan result L) :
    (exchangesOf L).filterMap (Exchange.volume? id) = [] := by
  cases h <;> rfl

/-- Attaching a source leaves its volume alone. -/
theorem attaching_volume {kind : BusKind} {pan : Single} {routing : Routing} {L : List Entry}
    (h : Attaching m page id kind pan routing L) :
    (exchangesOf L).filterMap (Exchange.volume? id) = [] := by
  cases h with
  | noBus | crossOrigin => rfl
  | attached _ _ hL =>
    have hnone := chaining_volume hL
    exact hnone
  | failed _ _ hL =>
    have hnone := chaining_volume hL
    exact hnone

/-- **The one call that carries what the host has answered.** -/
theorem scaling_follows {kind : BusKind} {K : List Entry} (h : Scaling m id kind K)
    (hm : m.Ranged) {A : List Exchange} {last : Single} (hlast : lastVolume id A = some last)
    (hrange : Within (whole 0) (whole 1) last) : Follows A (exchangesOf K) := by
  cases h with
  | inert => exact follows_of_ranged A (by simp)
  | live _ volume =>
    intro hkeeps
    have hvolume : volume = last := hkeeps A id volume _ rfl last hlast
    have hscaled : Within (whole 0) (whole 1) (volume.mul (m.buses.get kind).gain) := by
      rw [hvolume]
      exact mul_within_unit hrange (hm kind)
    simpa [Call.Ranged] using hscaled

theorem routes_follows {kind : BusKind} {pan : Single} {routing : Routing} {R : List Entry}
    (h : Routes m page id kind pan routing R) (hm : m.Ranged) {A : List Exchange} {last : Single}
    (hlast : lastVolume id A = some last) (hrange : Within (whole 0) (whole 1) last) :
    Follows A (exchangesOf R) := by
  cases h with
  | attached hL => exact follows_of_ranged A (attaching_ranged hL)
  | direct hL hK =>
    rw [exchangesOf_append, exchangesOf_append]
    refine (follows_of_ranged A (attaching_ranged hL)).append ?_
    rw [← lastVolume_append A (attaching_volume hL)] at hlast
    refine (scaling_follows hK hm hlast hrange).append ?_
    exact follows_of_ranged _ (by simp [Call.Ranged])

/-- A source that is built, set to a volume, routed and started. -/
theorem opened_follows {supply : Supply} {address : String}
    {result : Except PlaybackFailure SourceId × Supply} {kind : BusKind} {pan : Single}
    {routing : Routing} {start : Start} {L R S : List Entry} {levels : List Exchange}
    (hL : Creating supply page address result L) (hR : Routes m page id kind pan routing R)
    (hS : Starting id start S) (hm : m.Ranged) (hlevels : ∀ x ∈ levels, x.call.Ranged)
    {last : Single} (hset : levels.filterMap (Exchange.volume? id) = [last])
    (hrange : Within (whole 0) (whole 1) last) (A : List Exchange) :
    Follows A (exchangesOf L ++ (levels ++ (exchangesOf R ++ exchangesOf S))) := by
  refine (follows_of_ranged A (creating_ranged hL)).append ?_
  refine (follows_of_ranged _ hlevels).append ?_
  refine (routes_follows hR hm (lastVolume_levels _ hset) hrange).append ?_
  exact follows_of_ranged _ (starting_ranged hS)

theorem playingEffect_follows {effects : Effects} {supply : Supply} {base : String}
    {request : EffectRequest} {result : EffectOutcome × Supply × Effects} {L : List Entry}
    (h : PlayingEffect effects supply m page base request result L) (hm : m.Ranged)
    (A : List Exchange) : Follows A (exchangesOf L) := by
  cases h with
  | skipped => exact follows_of_ranged A (by simp)
  | failed _ hL => exact follows_of_ranged A (by simpa using creating_ranged hL)
  | @played _ _ id _ _ _ _ _ _ hL hR hS =>
    have hvolume : Within (whole 0) (whole 1) request.volumeFactor := volumeFactor_within _
    have hrate : Within half (whole 2) request.rateFactor := rateFactor_within _
    have hlevels : ∀ x ∈ request.levels id, x.call.Ranged := by
      simp [EffectRequest.levels, Call.Ranged, hvolume, hrate]
    have hset : (request.levels id).filterMap (Exchange.volume? id) = [request.volumeFactor] :=
      List.filterMap_cons_some (if_pos rfl)
    simpa [EffectRequest.levels] using opened_follows hL hR hS hm hlevels hset hvolume A

theorem stoppingMusic_ranged {music : Music} {L : List Entry} (h : StoppingMusic music L) :
    ∀ x ∈ exchangesOf L, x.call.Ranged := by
  cases h with
  | idle => simp
  | stopped hL => simpa using halting_ranged hL

theorem beginning_follows {supply : Supply} {address : String} {request : MusicRequest}
    {result : MusicOutcome × Supply × Music} {K : List Entry}
    (h : Beginning supply m page address request result K) (hm : m.Ranged) (A : List Exchange) :
    Follows A (exchangesOf K) := by
  cases h with
  | failed hL => exact follows_of_ranged A (by simpa using creating_ranged hL)
  | @started id _ _ _ _ _ _ hL hR hS =>
    have hone : Within (whole 0) (whole 1) (whole 1) := by decide
    have hlevels : ∀ x ∈ request.levels id, x.call.Ranged := by
      simp [MusicRequest.levels, Call.Ranged, hone]
    have hset : (request.levels id).filterMap (Exchange.volume? id) = [whole 1] :=
      (List.filterMap_cons_none rfl).trans (List.filterMap_cons_some (if_pos rfl))
    simpa [MusicRequest.levels] using opened_follows hL hR hS hm hlevels hset hone A

theorem playingMusic_follows {music : Music} {supply : Supply} {base : String}
    {request : MusicRequest} {result : MusicOutcome × Supply × Music} {L : List Entry}
    (h : PlayingMusic music supply m page base request result L) (hm : m.Ranged)
    (A : List Exchange) : Follows A (exchangesOf L) := by
  cases h with
  | skipped => exact follows_of_ranged A (by simp)
  | answered _ _ _ hL => exact follows_of_ranged A (resuming_ranged hL)
  | replaced _ _ hL hK =>
    rw [exchangesOf_append]
    exact (follows_of_ranged A (stoppingMusic_ranged hL)).append (beginning_follows hK hm _)

theorem haltingEach_ranged {effects : Effects} {K : List Entry} (h : HaltingEach effects K) :
    ∀ x ∈ exchangesOf K, x.call.Ranged := by
  induction h with
  | nil => simp
  | cons hL _ ih =>
    rw [exchangesOf_append]
    exact List.forall_mem_append.mpr ⟨halting_ranged hL, ih⟩

/-- **What an operation leaves is in range**, after whatever came before it. -/
theorem acts_follows {drained : List Notice} {e : Engine} {op : Operation}
    {result : Answer × Engine} {L : List Entry} (h : Acts drained e op result L)
    (hm : e.mixer.Ranged) (A : List Exchange) : Follows A (exchangesOf L) := by
  cases h with
  | playEffect hL => exact playingEffect_follows hL hm A
  | playMusic hL => exact playingMusic_follows hL hm A
  | stopMusic hL => exact follows_of_ranged A (stoppingMusic_ranged hL)
  | stopAll hL hK =>
    rw [exchangesOf_append]
    refine follows_of_ranged A ?_
    exact List.forall_mem_append.mpr ⟨stoppingMusic_ranged hL, haltingEach_ranged hK⟩
  | drain => exact follows_of_ranged A (by simp)
  | setGain hL =>
    refine follows_of_ranged A ?_
    cases hL with
    | live => simpa [Call.Ranged] using gain_within _
    | inert => simp
  | unlock hL =>
    refine follows_of_ranged A (ranged_of_mixing (unlocking_calls hL) ?_)
    simp [unlocking_mixing hL]
  | isUnlocked hL =>
    refine follows_of_ranged A (ranged_of_mixing (looking_calls hL) ?_)
    simp [looking_mixing hL]

/-- A gain that is answered is one that was brought into its range. -/
theorem answered_gain {drained : List Notice} {e e' : Engine} {op : Operation} {gain : Single}
    {L : List Entry} (h : Acts drained e op (.gain gain, e') L) :
    Within (whole 0) (whole 1) gain := by
  cases h with
  | setGain =>
    rw [withGain_gain, if_pos rfl]
    exact gain_within _

end Conduct

/-! ## 4. A whole run -/

theorem Construction.ranged {gains : Gains} {m : Mixer} {X : List Exchange}
    (h : Construction gains m X) : ∀ x ∈ X, x.call.Ranged := by
  have hlevel : ∀ kind, Within (whole 0) (whole 1) (gains.level kind) := fun kind => gain_within _
  cases h with
  | unsupported => simp
  | noContext => simp [Call.Ranged]
  | context => simp [BusKind.all, Call.Ranged, hlevel]

/-- Building an engine is in range, whatever the settings are. -/
theorem opening_ranged (settings : Settings) (host : H.State) :
    ∀ x ∈ exchangesOf (Situation.opening settings host : Situation H).session.chronicle,
      x.call.Ranged :=
  ranged_of_mixing (Conduct.building_calls (opening_unfolds settings host).2)
    (opening_construction settings host).ranged

theorem ranged_after (settings : Settings) (host : H.State) (steps : List (Step H)) :
    ((Situation.opening settings host : Situation H).after steps).engine.mixer.Ranged := by
  intro kind
  rw [(shows_after settings host steps kind).1]
  exact gain_within _

theorem Passage.follows {p : Passage H} (hl : p.start.session.Listening)
    (hm : p.start.engine.mixer.Ranged) (A : List Exchange) : Follows A p.exchanges := by
  cases hstep : p.step with
  | meanwhile change notices =>
    rw [exchanges_rested hl hstep]
    exact follows_of_ranged A (by simp)
  | perform op =>
    obtain ⟨answer, L, -, hX, hA⟩ := acted hl hstep
    rw [hX]
    exact Conduct.acts_follows hA hm A

/-- **Nothing out of range reaches the host.**  From every configuration, through every run in which
volumes are kept, and for whatever numbers the settings, the requests and the gains that are asked for
carry: each call is in range.  So is each gain that is kept for a bus, at any time, and each one that
is answered. -/
theorem calls_in_range (settings : Settings) (host : H.State) (steps : List (Step H))
    (h : KeepsVolumes
      (exchangesOf ((Situation.opening settings host).after steps).session.chronicle)) :
    let start : Situation H := .opening settings host
    let now := start.after steps
    (∀ x ∈ exchangesOf now.session.chronicle, x.call.Ranged) ∧
    (∀ kind, Within (whole 0) (whole 1) (now.engine.mixer.gain kind)) ∧
    ∀ p ∈ start.history steps, ∀ gain, p.answer = some (.gain gain) →
      Within (whole 0) (whole 1) gain := by
  intro start now
  have hl : start.session.Listening := opening_listening settings host
  refine ⟨?_, ranged_after settings host steps, fun p hp gain ha => ?_⟩
  · have hrun : Follows (exchangesOf start.session.chronicle)
        ((start.history steps).flatMap Passage.exchanges) := by
      refine follows_flatMap (fun p hp => ?_) _
      obtain ⟨before, rest, -, hstart⟩ := mem_history hp
      have hm : p.start.engine.mixer.Ranged := hstart ▸ ranged_after settings host before
      exact Passage.follows (listening_of_mem_history hl hp) hm
    rw [trace_eq hl] at h ⊢
    exact List.forall_mem_append.mpr ⟨opening_ranged settings host, hrun h⟩
  · cases hstep : p.step with
    | meanwhile change notices =>
      rw [(Passage.rested hstep).1] at ha
      cases ha
    | perform op =>
      obtain ⟨answer, L, ha', -, hA⟩ := Passage.acted (listening_of_mem_history hl hp) hstep
      obtain rfl : answer = .gain gain := Option.some.inj (ha'.symm.trans ha)
      exact Conduct.answered_gain hA

/-! ## 5. Hosts that keep volumes -/

/-- In each state of the host, a source has a volume: the one it was set to last, and the one that is
answered. -/
structure Host.KeepsVolumes (H : Host) (volume : H.State → SourceId → Single) : Prop where
  asked : ∀ st id, (H.answer (.sourceVolume id) st).1 = volume st id
  set : ∀ st id new, volume (H.answer (.setVolume id new) st).2.2 id = new
  kept : ∀ st id c, (∀ new, c ≠ .setVolume id new) → volume (H.answer c st).2.2 id = volume st id

/-- The volumes of this state are those that were set last. -/
def Recalls (volume : SourceId → Single) (A : List Exchange) : Prop :=
  ∀ id last, lastVolume id A = some last → volume id = last

theorem KeepsVolumes.snoc {A : List Exchange} (h : KeepsVolumes A) {x : Exchange}
    (hx : ∀ id volume, x = ⟨.sourceVolume id, volume⟩ → ∀ last, lastVolume id A = some last →
      volume = last) : KeepsVolumes (A ++ [x]) := by
  intro A' id volume B hsplit
  rcases List.eq_nil_or_concat B with rfl | ⟨B', y, rfl⟩
  · obtain ⟨rfl, hxe⟩ := List.append_inj' hsplit rfl
    exact hx id volume (List.cons.inj hxe).1
  · rw [List.concat_eq_append, ← List.cons_append, ← List.append_assoc] at hsplit
    exact h A' id volume B' (List.append_inj' hsplit rfl).1

section Keeping

variable {volume : H.State → SourceId → Single}

/-- **Call by call**, the volumes in the state stay those that were set last. -/
theorem Session.Unfolds.keepsVolumes (hH : H.KeepsVolumes volume) {s t : Session H}
    {L : List Entry} (h : s.Unfolds L t) {A : List Exchange} (hA : KeepsVolumes A)
    (hs : Recalls (volume s.host) A) :
    KeepsVolumes (A ++ exchangesOf L) ∧ Recalls (volume t.host) (A ++ exchangesOf L) := by
  induction h generalizing A with
  | refl s => simpa using ⟨hA, hs⟩
  | log r _ ih => exact ih hA hs
  | @ask s t L c _ ih =>
    have hkeeps : KeepsVolumes (A ++ [⟨c, (SoundEngine.ask c s).1⟩]) := by
      refine hA.snoc fun id v hx last hlast => ?_
      obtain rfl : c = .sourceVolume id := congrArg Exchange.call hx
      obtain rfl : (SoundEngine.ask (.sourceVolume id) s).1 = v := by
        cases hx
        rfl
      exact (hH.asked s.host id).trans (hs id last hlast)
    have hrecalls : Recalls (volume (SoundEngine.ask c s).2.host)
        (A ++ [⟨c, (SoundEngine.ask c s).1⟩]) := by
      intro id last hlast
      rw [ask_host]
      rw [lastVolume_snoc] at hlast
      by_cases hc : ∃ new, c = .setVolume id new
      · obtain ⟨new, rfl⟩ := hc
        rw [hH.set]
        simpa [Exchange.volume?] using hlast
      · have hnone : Exchange.volume? id ⟨c, (SoundEngine.ask c s).1⟩ = none := by
          cases c with
          | setVolume other new =>
            refine if_neg fun he => hc ⟨new, by rw [he]⟩
          | _ => rfl
        rw [hnone, Option.none_or] at hlast
        rw [hH.kept s.host id c fun new he => hc ⟨new, he⟩]
        exact hs id last hlast
    have hrest := ih hkeeps hrecalls
    rwa [List.append_assoc] at hrest

/-- So far volumes were kept, and they are in the state: whoever asks for one now is told what was set
last. -/
def Situation.KeepsVolumes (now : Situation H) (volume : H.State → SourceId → Single) : Prop :=
  let trace := exchangesOf now.session.chronicle
  SoundEngine.KeepsVolumes trace ∧ Recalls (volume now.session.host) trace

theorem Passage.keepsVolumes (hH : H.KeepsVolumes volume) {p : Passage H}
    (hl : p.start.session.Listening) (h : p.start.KeepsVolumes volume)
    (hrest : ∀ change notices, p.step = .meanwhile change notices →
      ∀ st, volume (change st) = volume st) : p.finish.KeepsVolumes volume := by
  unfold Situation.KeepsVolumes
  rw [chronicle_finish hl, exchangesOf_append]
  cases hstep : p.step with
  | meanwhile change notices =>
    rw [entries_rested hl hstep, (rested hstep).2.2, meanwhile_host, hrest change notices hstep,
      exchangesOf_nil, List.append_nil]
    exact h
  | perform op =>
    obtain ⟨answer, L, -, -, hU, -⟩ := performed hl hstep
    refine hU.keepsVolumes hH h.1 ?_
    split
    · exact h.2
    · exact h.2

/-- **A run over a host that keeps volumes** is one in which volumes are kept, if the host does not
change them between the operations. -/
theorem trace_keepsVolumes (hH : H.KeepsVolumes volume) (settings : Settings) (host : H.State)
    (steps : List (Step H))
    (hrest : ∀ change notices, .meanwhile change notices ∈ steps →
      ∀ st, volume (change st) = volume st) :
    ((Situation.opening settings host : Situation H).after steps).KeepsVolumes volume := by
  have hl := opening_listening (H := H) settings host
  induction steps using List.reverseRecOn with
  | nil =>
    have hnone : KeepsVolumes [] ∧ Recalls (volume host) [] := by
      refine ⟨fun A id v B h => ?_, fun id last h => ?_⟩
      · exact absurd h (by simp)
      · cases h
    exact (opening_unfolds settings host).1.keepsVolumes hH hnone.1 hnone.2
  | append_singleton steps step ih =>
    rw [after_snoc]
    refine Passage.keepsVolumes hH (after_listening hl steps) ?_ fun change notices hstep => ?_
    · exact ih fun change notices hmem => hrest change notices (List.mem_append_left _ hmem)
    · exact hrest change notices (List.mem_append_right _ (by simp [← hstep]))

end Keeping

namespace Recorder

/-- A host that keeps volumes and wraps no source, so that each one is scaled.  Its state is the
volume of each source. -/
def host : Host where
  State := SourceId → Single
  answer
    | .supportsGraph, volumes => (true, [], volumes)
    | .createContext, volumes => (true, [], volumes)
    | .createBus _, volumes => (.ok ⟨0⟩, [], volumes)
    | .setVolume id new, volumes => ((), [], Function.update volumes id new)
    | .sourceVolume id, volumes => (volumes id, [], volumes)
    | c, volumes => ((BareSource.host.answer c { address := "" }).1, [], volumes)

theorem keepsVolumes : host.KeepsVolumes fun volumes => volumes where
  asked _ _ := rfl
  set _ _ _ := Function.update_self _ _ _
  kept volumes id c h := by
    cases c with
    | setVolume other new =>
      have hother : id ≠ other := fun he => h new (by rw [he])
      have hupdate (f : SourceId → Single) : Function.update f other new id = f id :=
        Function.update_of_ne hother new f
      exact hupdate volumes
    | _ => rfl

end Recorder

/-- An effect with nothing but extreme numbers, and a gain that is not a number, on a host that scales
every source: the second effect is silenced. -/
theorem calls_in_range_recorder :
    let steps : List (Step Recorder.host) :=
      [.perform (.playEffect ⟨"gong", some (.infinite false), some .nan, some (.infinite true)⟩),
        .perform (.setGain .effects .nan), .perform (.playEffect ⟨"bell", none, none, none⟩)]
    let now := (Situation.opening .standard fun _ => .zero).after steps
    (∀ x ∈ exchangesOf now.session.chronicle, x.call.Ranged) ∧
    (∀ kind, Within (whole 0) (whole 1) (now.engine.mixer.gain kind)) ∧
    .setVolume ⟨2⟩ .zero ∈ (exchangesOf now.session.chronicle).map Exchange.call := by
  intro steps now
  have hkeeps : now.KeepsVolumes fun volumes => volumes :=
    trace_keepsVolumes Recorder.keepsVolumes .standard _ steps fun change notices h =>
      absurd h (by simp [steps])
  obtain ⟨hcalls, hgains, -⟩ := calls_in_range (H := Recorder.host) .standard _ steps hkeeps.1
  exact ⟨hcalls, hgains, by decide +kernel⟩

end SoundEngine
