import Mathlib.Data.List.Nodup
import SoundEngine.Proofs.Dossier
import SoundEngine.Proofs.Tracking

/-!
# The sources that an engine holds

Of all that an engine is made of, its ROSTER is what says whose calls may come next: the next
number, the sources of the tracked effects, and the source of the track in the slot.

* §1 is the roster and what is true of it at all times (`Roster.Sound`): numbers are given out in
  order, so no source is held twice.
* §2 is what can happen to it.  A MOVE makes the calls of one block and changes the roster with it;
  there are a few kinds of moves, and a proof that goes by them knows nothing of the engine
  (`Move.sound`).
* §3 takes each conduct apart into moves, and §4 the passages and runs.  A run of an engine is a run
  of moves, over every host (`run_moves`).
-/

namespace SoundEngine

variable {H : Host}

/-! ## 1. The roster -/

/-- The next number, the sources of the tracked effects, and the source in the slot for music. -/
structure Roster where
  next : Nat
  effects : List SourceId
  music : Option SourceId

/-- The roster of an engine. -/
def Engine.roster (e : Engine) : Roster :=
  ⟨e.supply.next, e.effects.map ActiveEffect.source, e.music.map Track.source⟩

namespace Roster

/-- The source that is built next. -/
def fresh (r : Roster) : SourceId := ⟨r.next⟩

/-- No source is held twice, and all that are held have had their numbers.  This is what keeps a source
that is built next from being taken for one that is held, and every move keeps it. -/
structure Sound (r : Roster) : Prop where
  nodup : r.effects.Nodup
  effects_lt : ∀ id ∈ r.effects, id.number < r.next
  music_lt : ∀ id, r.music = some id → id.number < r.next
  apart : ∀ id, r.music = some id → id ∉ r.effects

/-- The roster of an engine that was just built. -/
def opening : Roster := ⟨1, [], none⟩

theorem opening_sound : opening.Sound where
  nodup := List.nodup_nil
  effects_lt _ h := absurd h List.not_mem_nil
  music_lt _ h := absurd h (by simp [opening])
  apart _ _ := List.not_mem_nil

theorem Sound.fresh_not_mem {r : Roster} (h : r.Sound) : r.fresh ∉ r.effects :=
  fun hm => Nat.lt_irrefl _ (h.effects_lt _ hm)

/-- Forgetting effects keeps a roster sound. -/
theorem Sound.filter {r : Roster} (h : r.Sound) (keeps : SourceId → Bool) :
    ({ r with effects := r.effects.filter keeps } : Roster).Sound where
  nodup := h.nodup.filter keeps
  effects_lt id hid := h.effects_lt id (List.mem_filter.mp hid).1
  music_lt := h.music_lt
  apart id hm hid := h.apart id hm (List.mem_filter.mp hid).1

end Roster

/-! ## 2. Moves -/

/-- One thing that can happen to a roster, with its calls.  `made` says which operation a source may
be built for. -/
inductive Move (made : SourceId → Operation → Prop) : Roster → List Exchange → Roster → Prop
  | general {r : Roster} {B : List Exchange} (hB : ∀ x ∈ B, x.call.isGeneral = true) :
      Move made r B r
  | forgets {r : Roster} (keeps : SourceId → Bool) :
      Move made r [] { r with effects := r.effects.filter keeps }
  | refused {r : Roster} (address : String) (mode : FetchMode) (failure : PlaybackFailure) :
      Move made r [⟨.createSource r.fresh address mode, .error failure⟩]
        { r with next := r.next + 1 }
  | opensEffect {r : Roster} {request : EffectRequest} {B : List Exchange}
      (hm : made r.fresh (.playEffect request)) (hB : Block (some r.fresh) B)
      (h : Opening r.fresh (request.levels r.fresh) (telling B)) :
      Move made r B { r with next := r.next + 1, effects := r.effects ++ [r.fresh] }
  | opensMusic {r : Roster} {request : MusicRequest} {B : List Exchange}
      (hempty : r.music = none) (hm : made r.fresh (.playMusic request))
      (hB : Block (some r.fresh) B)
      (h : Opening r.fresh (request.levels r.fresh) (telling B)) :
      Move made r B { r with next := r.next + 1, music := some r.fresh }
  | resumesMusic {r : Roster} {id : SourceId} {B : List Exchange} (hid : r.music = some id)
      (hB : Block (some id) B) (h : Resumption id (telling B)) : Move made r B r
  | haltsMusic {r : Roster} {id : SourceId} {B : List Exchange} (hid : r.music = some id)
      (hB : Block (some id) B) (h : Halt id (telling B)) : Move made r B { r with music := none }
  | haltsEffect {r : Roster} {id : SourceId} {B : List Exchange} (hid : id ∈ r.effects)
      (hB : Block (some id) B) (h : Halt id (telling B)) :
      Move made r B { r with effects := r.effects.filter (· ≠ id) }

/-- Some moves, one after the other. -/
inductive Moves (made : SourceId → Operation → Prop) : Roster → List Exchange → Roster → Prop
  | refl (r : Roster) : Moves made r [] r
  | head {r r' r'' : Roster} {B X : List Exchange} (h : Move made r B r')
      (hs : Moves made r' X r'') : Moves made r (B ++ X) r''

section Moves

variable {made : SourceId → Operation → Prop} {r r' r'' : Roster} {B X Y : List Exchange}

/-- **A move keeps the roster sound.** -/
theorem Move.sound (h : Move made r B r') (hs : r.Sound) : r'.Sound := by
  cases h with
  | general => exact hs
  | forgets keeps => exact hs.filter keeps
  | resumesMusic => exact hs
  | haltsEffect => exact hs.filter _
  | haltsMusic =>
    exact ⟨hs.nodup, hs.effects_lt, fun _ h => absurd h (by simp), fun _ h => absurd h (by simp)⟩
  | refused =>
    exact ⟨hs.nodup, fun id h => Nat.lt_succ_of_lt (hs.effects_lt id h),
      fun id h => Nat.lt_succ_of_lt (hs.music_lt id h), hs.apart⟩
  | opensMusic =>
    refine ⟨hs.nodup, fun id h => Nat.lt_succ_of_lt (hs.effects_lt id h), ?_, ?_⟩
    · rintro _ ⟨⟩
      exact Nat.lt_succ_self _
    · rintro _ ⟨⟩
      exact hs.fresh_not_mem
  | opensEffect =>
    refine ⟨?_, ?_, fun id h => Nat.lt_succ_of_lt (hs.music_lt id h), fun id h hm => ?_⟩
    · exact List.Nodup.append hs.nodup (List.nodup_singleton _)
        (List.disjoint_singleton.mpr hs.fresh_not_mem)
    · intro id hid
      rcases List.mem_append.mp hid with hid | hid
      · exact Nat.lt_succ_of_lt (hs.effects_lt id hid)
      · rw [List.mem_singleton.mp hid]
        exact Nat.lt_succ_self _
    · rcases List.mem_append.mp hm with hm | hm
      · exact hs.apart id h hm
      · have hlt := hs.music_lt id h
        rw [List.mem_singleton.mp hm] at hlt
        exact Nat.lt_irrefl _ hlt

/-- Numbers are only ever given out. -/
theorem Move.next_le (h : Move made r B r') : r.next ≤ r'.next := by
  cases h <;> simp

theorem Move.mono {made' : SourceId → Operation → Prop} (hm : ∀ id op, made id op → made' id op)
    (h : Move made r B r') : Move made' r B r' := by
  cases h with
  | general hB => exact .general hB
  | forgets keeps => exact .forgets keeps
  | refused address mode failure => exact .refused address mode failure
  | opensEffect h hB ho => exact .opensEffect (hm _ _ h) hB ho
  | opensMusic he h hB ho => exact .opensMusic he (hm _ _ h) hB ho
  | resumesMusic hid hB hr => exact .resumesMusic hid hB hr
  | haltsMusic hid hB hh => exact .haltsMusic hid hB hh
  | haltsEffect hid hB hh => exact .haltsEffect hid hB hh

theorem Moves.single (h : Move made r B r') : Moves made r B r' := by
  rw [← List.append_nil B]
  exact .head h (.refl r')

theorem Moves.trans (h : Moves made r X r') (h' : Moves made r' Y r'') :
    Moves made r (X ++ Y) r'' := by
  induction h with
  | refl => exact h'
  | head hB _ ih =>
    rw [List.append_assoc]
    exact .head hB (ih h')

theorem Moves.mono {made' : SourceId → Operation → Prop} (hm : ∀ id op, made id op → made' id op)
    (h : Moves made r X r') : Moves made' r X r' := by
  induction h with
  | refl => exact .refl _
  | head hB _ ih => exact .head (hB.mono hm) ih

theorem Moves.sound (h : Moves made r X r') (hs : r.Sound) : r'.Sound := by
  induction h with
  | refl => exact hs
  | head hB _ ih => exact ih (hB.sound hs)

theorem Moves.next_le (h : Moves made r X r') : r.next ≤ r'.next := by
  induction h with
  | refl => exact Nat.le_refl _
  | head hB _ ih => exact Nat.le_trans hB.next_le ih

/-- Only the next source is ever built, and the one move that builds it gives out its number. -/
theorem Move.of_built {id : SourceId} (h : Move made r B r') (hb : Built id B) :
    id = r.fresh ∧ r'.next = r.next + 1 ∧ ((∃ request, made id (.playEffect request)) ∨
      (r.music = none ∧ ∃ request, made id (.playMusic request))) := by
  obtain ⟨address, mode, htold⟩ := hb.telling
  have hown : ∀ {owner : SourceId}, Block (some owner) B → id = owner := fun hB => by
    obtain ⟨_, _, hx⟩ := hb
    exact Option.some.inj (hB.about _ hx rfl)
  cases h with
  | general hB =>
    obtain ⟨_, _, hx⟩ := hb
    exact absurd (hB _ hx) Bool.false_ne_true
  | forgets => exact absurd htold List.not_mem_nil
  | refused => exact absurd (List.mem_singleton.mp htold) (by simp)
  | opensEffect hm hB =>
    obtain rfl := hown hB
    exact ⟨rfl, rfl, .inl ⟨_, hm⟩⟩
  | opensMusic hempty hm hB =>
    obtain rfl := hown hB
    exact ⟨rfl, rfl, .inr ⟨hempty, _, hm⟩⟩
  | resumesMusic _ _ hr =>
    generalize telling B = D at htold hr
    cases hr <;> exact absurd htold (by simp)
  | haltsMusic _ _ hh | haltsEffect _ _ hh =>
    generalize telling B = D at htold hh
    cases hh <;> exact absurd htold (by simp)

/-- What some moves build has one of the numbers that they give out. -/
theorem Moves.of_built {id : SourceId} (h : Moves made r X r') (hb : Built id X) :
    r.next ≤ id.number ∧ id.number < r'.next := by
  induction h with
  | refl => exact absurd hb (by simp [Built])
  | @head r r₁ r' B X hB hs ih =>
    rcases built_append.mp hb with hb | hb
    · obtain ⟨rfl, hn, -⟩ := hB.of_built hb
      refine ⟨Nat.le_refl _, ?_⟩
      have hle := hs.next_le
      rw [hn] at hle
      exact hle
    · exact ⟨Nat.le_trans hB.next_le (ih hb).1, (ih hb).2⟩

/-- Any cut through the calls of some moves is in the middle of one of them. -/
theorem Moves.split : ∀ {X}, Moves made r (X ++ Y) r' →
    ∃ A B C r₁ r₂, X = A ++ B ∧ Moves made r A r₁ ∧ Move made r₁ (B ++ C) r₂ := by
  intro X h
  generalize hZ : X ++ Y = Z at h
  induction h generalizing X with
  | refl r =>
    rw [(List.append_eq_nil_iff.mp hZ).1]
    exact ⟨[], [], [], r, r, rfl, .refl r, .general (by simp)⟩
  | @head r r' r'' B Z' hB hs ih =>
    rcases List.append_eq_append_iff.mp hZ with ⟨C, rfl, rfl⟩ | ⟨W, rfl, hW⟩
    · exact ⟨[], X, C, r, r', rfl, .refl r, hB⟩
    · obtain ⟨A, B', C, r₁, r₂, rfl, hA, hB'⟩ := ih hW.symm
      exact ⟨B ++ A, B', C, r₁, r₂, (List.append_assoc _ _ _).symm, .head hB hA, hB'⟩

end Moves

/-! ## 3. The conduct of an operation, by moves -/

namespace Conduct

variable {made : SourceId → Operation → Prop}

/-- The roster after an attempt, failed or not. -/
theorem creating_next {supply supply' : Supply} {page : Option Url} {address : String}
    {result : Except PlaybackFailure SourceId} {L : List Entry}
    (h : Creating supply page address (result, supply') L) : supply'.next = supply.next + 1 := by
  cases h <;> rfl

theorem built_of_creating {supply supply' : Supply} {page : Option Url} {address : String}
    {id : SourceId} {L : List Entry} (h : Creating supply page address (.ok id, supply') L) :
    Built id (exchangesOf L) := by
  obtain ⟨rfl, -, hX⟩ := creating_ok h
  rw [hX]
  exact ⟨address, _, List.mem_cons_self⟩

theorem playingEffect_moves {effects effects' : Effects} {supply supply' : Supply} {m : Mixer}
    {page : Option Url} {base : String} {request : EffectRequest} {outcome : EffectOutcome}
    {L : List Entry} {music : Option SourceId}
    (h : PlayingEffect effects supply m page base request (outcome, supply', effects') L)
    (hs : (⟨supply.next, effects.map ActiveEffect.source, music⟩ : Roster).Sound)
    (hm : ∀ id, Built id (exchangesOf L) → made id (.playEffect request)) :
    Moves made ⟨supply.next, effects.map ActiveEffect.source, music⟩ (exchangesOf L)
      ⟨supply'.next, effects'.map ActiveEffect.source, music⟩ := by
  cases h with
  | skipped => exact .refl _
  | @failed address _ failure _ L hL =>
    have hX : exchangesOf (L ++ [.record (.effectNotCreated address failure)])
        = [⟨.createSource supply.nextId address (.of page address), .error failure⟩] := by
      rw [exchangesOf_append, (creating_error hL).2]
      rfl
    rw [hX, creating_next hL]
    exact .single (.refused _ _ _)
  | @played address _ id _ routing start L R S hL hR hS =>
    have hb : Built id (exchangesOf L) := built_of_creating hL
    obtain ⟨rfl, -, -⟩ := creating_ok hL
    obtain ⟨hblock, hopening⟩ := effect_opened hL hR hS
      (.effectStarted supply.nextId address routing.isAttached start)
    have hfresh : ¬ effects.tracks supply.nextId = true := fun ht =>
      hs.fresh_not_mem (Effects.tracks_iff.mp ht)
    rw [Effects.sources_insert, if_neg hfresh, creating_next hL]
    refine .single (.opensEffect (hm _ ?_) hblock hopening)
    rw [exchangesOf_append]
    exact hb.append_left _

theorem stoppingMusic_moves {music : Music} {L : List Entry} (h : StoppingMusic music L)
    (next : Nat) (effects : List SourceId) :
    Moves made ⟨next, effects, music.map Track.source⟩ (exchangesOf L) ⟨next, effects, none⟩ := by
  cases h with
  | idle => exact .refl _
  | stopped hL =>
    rw [exchangesOf_append, exchangesOf_cons_record, exchangesOf_nil, List.append_nil]
    exact .single (.haltsMusic rfl (halting_block hL) (halting_telling hL))

theorem beginning_moves {supply supply' : Supply} {m : Mixer} {page : Option Url}
    {address : String} {request : MusicRequest} {outcome : MusicOutcome} {music : Music}
    {K : List Entry} (h : Beginning supply m page address request (outcome, supply', music) K)
    (hm : ∀ id, Built id (exchangesOf K) → made id (.playMusic request))
    (effects : List SourceId) :
    Moves made ⟨supply.next, effects, none⟩ (exchangesOf K)
      ⟨supply'.next, effects, music.map Track.source⟩ := by
  cases h with
  | @failed failure _ L hL =>
    have hX : exchangesOf (L ++ [.record (.musicNotCreated address failure)])
        = [⟨.createSource supply.nextId address (.of page address), .error failure⟩] := by
      rw [exchangesOf_append, (creating_error hL).2]
      rfl
    rw [hX, creating_next hL]
    exact .single (.refused _ _ _)
  | @started id _ routing start L R S hL hR hS =>
    have hb : Built id (exchangesOf L) := built_of_creating hL
    obtain ⟨rfl, -, -⟩ := creating_ok hL
    obtain ⟨hblock, hopening⟩ := track_opened hL hR hS
      (.musicStarted supply.nextId address request.loops routing.isAttached start)
    rw [creating_next hL]
    refine .single (.opensMusic rfl (hm _ ?_) hblock hopening)
    rw [exchangesOf_append]
    exact hb.append_left _

theorem playingMusic_moves {music music' : Music} {supply supply' : Supply} {m : Mixer}
    {page : Option Url} {base : String} {request : MusicRequest} {outcome : MusicOutcome}
    {L : List Entry}
    (h : PlayingMusic music supply m page base request (outcome, supply', music') L)
    (hm : ∀ id, Built id (exchangesOf L) → made id (.playMusic request))
    (effects : List SourceId) :
    Moves made ⟨supply.next, effects, music.map Track.source⟩ (exchangesOf L)
      ⟨supply'.next, effects, music'.map Track.source⟩ := by
  cases h with
  | skipped => exact .refl _
  | answered _ ht _ hL =>
    refine .single (.resumesMusic ?_ (resuming_block hL) (resuming_telling hL))
    rw [ht]
    rfl
  | replaced _ _ hL hK =>
    rw [exchangesOf_append] at hm ⊢
    refine (stoppingMusic_moves hL _ _).trans (beginning_moves hK (fun id hb => ?_) effects)
    exact hm id (hb.append_right _)

/-- Halting effects that are held takes them off the roster, one after the other. -/
theorem haltingEach_moves {effects : Effects} {K : List Entry} (h : HaltingEach effects K) :
    ∀ {r : Roster}, (effects.map ActiveEffect.source).Nodup →
      (∀ id ∈ effects.map ActiveEffect.source, id ∈ r.effects) →
      Moves made r (exchangesOf K)
        { r with effects := r.effects.filter (· ∉ effects.map ActiveEffect.source) } := by
  induction h with
  | nil =>
    intro r _ _
    have hall : r.effects.filter (· ∉ ([] : Effects).map ActiveEffect.source) = r.effects :=
      List.filter_eq_self.mpr fun _ _ => decide_eq_true List.not_mem_nil
    rw [hall]
    exact .refl r
  | @cons e es L K hL _ ih =>
    intro r hnodup hheld
    obtain ⟨hne, hnodup⟩ := List.nodup_cons.mp hnodup
    rw [exchangesOf_append]
    refine .head (.haltsEffect (hheld _ List.mem_cons_self) (halting_block hL)
      (halting_telling hL)) ?_
    have hrest := ih (r := { r with effects := r.effects.filter (· ≠ e.source) }) hnodup
      fun id hid => List.mem_filter.mpr ⟨hheld id (List.mem_cons_of_mem _ hid),
        decide_eq_true fun heq => hne (heq ▸ hid)⟩
    have hfilter : (r.effects.filter (· ≠ e.source)).filter (· ∉ es.map ActiveEffect.source)
        = r.effects.filter (· ∉ (e :: es).map ActiveEffect.source) := by
      rw [List.filter_filter]
      refine List.filter_congr fun id _ => ?_
      rw [← Bool.decide_and, decide_eq_decide, List.map_cons, List.mem_cons, not_or]
      exact and_comm
    rw [← hfilter]
    exact hrest

/-- **What an engine does to perform an operation is a run of moves.** -/
theorem acts_moves {drained : List Notice} {e e' : Engine} {op : Operation} {answer : Answer}
    {L : List Entry} (h : Acts drained e op (answer, e') L) (hs : e.roster.Sound)
    (hm : ∀ id, Built id (exchangesOf L) → made id op) :
    Moves made e.roster (exchangesOf L) e'.roster := by
  cases h with
  | playEffect hL => exact playingEffect_moves hL hs hm
  | playMusic hL => exact playingMusic_moves hL hm _
  | stopMusic hL => exact stoppingMusic_moves hL _ _
  | @stopAll order L K hL hK =>
    rw [exchangesOf_append]
    have hperm := (order.perm e.effects).map ActiveEffect.source
    let r : Roster := ⟨e.supply.next, e.effects.map ActiveEffect.source, none⟩
    let halted := (order.arrange e.effects).map ActiveEffect.source
    have hK' : Moves made r (exchangesOf K) { r with effects := r.effects.filter (· ∉ halted) } :=
      haltingEach_moves hK (hperm.nodup_iff.mpr hs.nodup) fun id hid => hperm.mem_iff.mp hid
    have hnone : r.effects.filter (· ∉ halted) = [] :=
      List.filter_eq_nil_iff.mpr fun id hid =>
        not_not.mpr (hperm.mem_iff.mpr hid) ∘ of_decide_eq_true
    rw [hnone] at hK'
    exact (stoppingMusic_moves hL _ _).trans hK'
  | drain => exact .refl _
  | setGain hL => exact .single (.general (settingGain_calls hL))
  | unlock hL => exact .single (.general (unlocking_calls hL))
  | isUnlocked hL => exact .single (.general (looking_calls hL))

/-- To heed events is to forget effects. -/
theorem heeded_roster (e : Engine) (notices : List Notice) :
    (heeded e notices).roster = { e.roster with
      effects := e.roster.effects.filter fun id => decide (¬ Over notices id) } := by
  have hmap : (heeding e.effects notices).map ActiveEffect.source
      = (e.effects.map ActiveEffect.source).filter fun id => decide (¬ Over notices id) := by
    rw [heeding_eq_filter, List.filter_map]
    rfl
  unfold Engine.roster heeded
  rw [hmap]

end Conduct

/-! ## 4. Passages and runs, by moves -/

namespace Passage

/-- The passage performs the operation, and builds the source for it.  No operation builds more than
one. -/
def Made (p : Passage H) (id : SourceId) (op : Operation) : Prop :=
  p.step = .perform op ∧ Built id p.exchanges

/-- Once it has drained, a passage goes on by moves. -/
theorem moves_heeded {p : Passage H} (hl : p.start.session.Listening)
    (hs : (Conduct.heeded p.start.engine p.consumed).roster.Sound) :
    Moves p.Made (Conduct.heeded p.start.engine p.consumed).roster p.exchanges
      p.finish.engine.roster := by
  cases hstep : p.step with
  | meanwhile change notices =>
    rw [exchanges_rested hl hstep, consumed_rested hstep, (rested hstep).2.1]
    exact .refl _
  | perform op =>
    obtain ⟨answer, L, -, hX, hA⟩ := acted hl hstep
    rw [hX]
    refine Conduct.acts_moves hA hs fun id hb => ⟨hstep, ?_⟩
    rw [hX]
    exact hb

theorem moves {p : Passage H} (hl : p.start.session.Listening) (hs : p.start.engine.roster.Sound) :
    Moves p.Made p.start.engine.roster p.exchanges p.finish.engine.roster := by
  have hforget : Move p.Made p.start.engine.roster []
      (Conduct.heeded p.start.engine p.consumed).roster := by
    rw [Conduct.heeded_roster]
    exact .forgets _
  exact .head hforget (moves_heeded hl (hforget.sound hs))

end Passage

/-- In the history the source was built for this operation. -/
def Made (history : List (Passage H)) (id : SourceId) (op : Operation) : Prop :=
  ∃ p ∈ history, p.Made id op

/-- **A run of an engine is a run of moves.** -/
theorem run_moves {now : Situation H} (hl : now.session.Listening)
    (hs : now.engine.roster.Sound) (steps : List (Step H)) :
    Moves (Made (now.history steps)) now.engine.roster
      ((now.history steps).flatMap Passage.exchanges) (now.after steps).engine.roster := by
  induction steps generalizing now with
  | nil => exact .refl _
  | cons step rest ih =>
    have hp := Passage.moves (p := ⟨now, step⟩) hl hs
    have hrest := @ih (now.next step) (Passage.finish_listening (p := ⟨now, step⟩) hl)
      (hp.sound hs)
    refine (hp.mono fun id op h => ?_).trans (hrest.mono fun id op h => ?_)
    · exact ⟨_, List.mem_cons_self, h⟩
    · obtain ⟨q, hq, h⟩ := h
      exact ⟨q, List.mem_cons_of_mem _ hq, h⟩

/-- In a run that starts soundly, every passage does. -/
theorem sound_of_mem_history {now : Situation H} (hl : now.session.Listening)
    (hs : now.engine.roster.Sound) {steps : List (Step H)} {p : Passage H}
    (hp : p ∈ now.history steps) : p.start.engine.roster.Sound := by
  obtain ⟨before, rest, -, hstart⟩ := mem_history hp
  rw [hstart]
  exact (run_moves hl hs before).sound hs

theorem opening_roster (settings : Settings) (host : H.State) :
    (Situation.opening settings host : Situation H).engine.roster = .opening := by
  obtain ⟨page, mixer, he⟩ := opening_engine settings host
  rw [he]
  rfl

/-- At every time the roster is sound. -/
theorem after_sound (settings : Settings) (host : H.State) (steps : List (Step H)) :
    ((Situation.opening settings host : Situation H).after steps).engine.roster.Sound := by
  have hs : (Situation.opening settings host : Situation H).engine.roster.Sound := by
    rw [opening_roster]
    exact Roster.opening_sound
  exact (run_moves (opening_listening settings host) hs steps).sound hs

/-- All calls of a run, those of the building of the engine too, are the calls of moves. -/
theorem trace_moves (settings : Settings) (host : H.State) (steps : List (Step H)) :
    let start : Situation H := .opening settings host
    Moves (Made (start.history steps)) .opening (exchangesOf (start.after steps).session.chronicle)
      (start.after steps).engine.roster := by
  intro start
  have hl : start.session.Listening := opening_listening settings host
  have hs : start.engine.roster.Sound := after_sound settings host []
  have hrun := run_moves hl hs steps
  rw [opening_roster] at hrun
  have hB := (opening_unfolds settings host).2
  rw [trace_eq hl]
  exact .head (.general (Conduct.building_calls hB)) hrun

/-! ## 5. Every source is built once -/

/-- A passage gives out numbers after those that the steps before it have given out. -/
theorem next_le_of_mem_history {now : Situation H} (hl : now.session.Listening)
    (hs : now.engine.roster.Sound) {steps : List (Step H)} {p : Passage H}
    (hp : p ∈ now.history steps) :
    now.engine.roster.next ≤ p.start.engine.roster.next ∧
      p.finish.engine.roster.next ≤ (now.after steps).engine.roster.next := by
  have hlp := listening_of_mem_history hl hp
  have hsp := sound_of_mem_history hl hs hp
  obtain ⟨most, rest, rfl, hstart⟩ := mem_history hp
  have hafter : now.after (most ++ p.step :: rest) = p.finish.after rest := by
    rw [after_append, ← hstart]
    rfl
  have hmost := run_moves hl hs most
  have hrest := run_moves (Passage.finish_listening hlp) ((Passage.moves hlp hsp).sound hsp) rest
  rw [hafter, hstart]
  exact ⟨hmost.next_le, hrest.next_le⟩

/-- **No source is built twice**, so there is one passage that built it. -/
theorem passage_of_built {now : Situation H} (hl : now.session.Listening)
    (hs : now.engine.roster.Sound) {steps : List (Step H)} {p q : Passage H} {id : SourceId}
    (hp : p ∈ now.history steps) (hq : q ∈ now.history steps) (hbp : Built id p.exchanges)
    (hbq : Built id q.exchanges) : q = p := by
  have hlp := listening_of_mem_history hl hp
  have hsp := sound_of_mem_history hl hs hp
  have hmoves := Passage.moves hlp hsp
  obtain ⟨hlow, hhigh⟩ := hmoves.of_built hbp
  obtain ⟨hlow', hhigh'⟩ := (Passage.moves (listening_of_mem_history hl hq)
    (sound_of_mem_history hl hs hq)).of_built hbq
  obtain ⟨before, later, h⟩ := List.append_of_mem hp
  obtain ⟨most, rest, -, rfl, hstart, rfl⟩ := history_split h
  rw [h] at hq
  rcases List.mem_append.mp hq with hq | hq
  · have hle := (next_le_of_mem_history hl hs hq).2
    rw [← hstart] at hle
    omega
  · rcases List.mem_cons.mp hq with hq | hq
    · exact hq
    · have hle := (next_le_of_mem_history (Passage.finish_listening hlp) (hmoves.sound hsp) hq).1
      omega

theorem made_unique {now : Situation H} (hl : now.session.Listening)
    (hs : now.engine.roster.Sound) {steps : List (Step H)} {id : SourceId} {op op' : Operation}
    (h : Made (now.history steps) id op) (h' : Made (now.history steps) id op') : op = op' := by
  obtain ⟨p, hp, hop, hb⟩ := h
  obtain ⟨q, hq, hop', hb'⟩ := h'
  obtain rfl := passage_of_built hl hs hp hq hb hb'
  rw [hop] at hop'
  exact Step.perform.inj hop'

end SoundEngine
