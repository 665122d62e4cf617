import SoundEngine.Proofs.Roster

/-!
# The protocol that each source sees

Over every host and through every run, the calls about one source, picked out of the calls of the
whole run, follow one of two courses: that of an effect or that of a track (`call_protocol`).  And a
source that was halted, or that an event has ended, is left alone.

The roster says how a source STANDS (§1): not built yet, tracked as an effect, in the slot for
music, or past.  For one source a move is nothing, or one of the few steps of a `Career` (§2), which
says how the source stands before and after and what is put on file about it.  The invariant that
carries the proof ties the standing of each source to its dossier: an `Account` (§3) holds of every
source at every time, for each step of a career puts on file what the course has next.  Once a source
is past, no call names it (§4).
-/

namespace SoundEngine

variable {H : Host}

/-! ## 1. How a source stands -/

/-- How a source stands. -/
inductive Standing where
  | unborn
  | effect
  | music
  | past
deriving DecidableEq

namespace Roster

/-- How a source stands with a roster. -/
def standing (r : Roster) (id : SourceId) : Standing :=
  if r.next ≤ id.number then .unborn
  else if id ∈ r.effects then .effect
  else if r.music = some id then .music
  else .past

variable {r r' : Roster} {id : SourceId}

theorem standing_fresh (r : Roster) : r.standing r.fresh = .unborn := if_pos (Nat.le_refl _)

theorem standing_of_le (h : r.next ≤ id.number) : r.standing id = .unborn := if_pos h

theorem standing_effect (hs : r.Sound) (h : id ∈ r.effects) : r.standing id = .effect := by
  unfold standing
  rw [if_neg (Nat.not_le.mpr (hs.effects_lt id h)), if_pos h]

theorem standing_music (hs : r.Sound) (h : r.music = some id) : r.standing id = .music := by
  unfold standing
  rw [if_neg (Nat.not_le.mpr (hs.music_lt id h)), if_neg (hs.apart id h), if_pos h]

theorem standing_past (hlt : id.number < r.next) (he : id ∉ r.effects) (hm : r.music ≠ some id) :
    r.standing id = .past := by
  unfold standing
  rw [if_neg (Nat.not_le.mpr hlt), if_neg he, if_neg hm]

theorem past_iff : r.standing id = .past ↔
    id.number < r.next ∧ id ∉ r.effects ∧ r.music ≠ some id := by
  constructor
  · intro h
    unfold standing at h
    by_cases hlt : r.next ≤ id.number
    · rw [if_pos hlt] at h
      exact absurd h (by decide)
    rw [if_neg hlt] at h
    by_cases he : id ∈ r.effects
    · rw [if_pos he] at h
      exact absurd h (by decide)
    rw [if_neg he] at h
    by_cases hm : r.music = some id
    · rw [if_pos hm] at h
      exact absurd h (by decide)
    exact ⟨Nat.not_le.mp hlt, he, hm⟩
  · rintro ⟨hlt, he, hm⟩
    exact standing_past hlt he hm

theorem music_of_standing (h : r.standing id = .music) : r.music = some id := by
  unfold standing at h
  split at h
  · exact absurd h (by decide)
  split at h
  · exact absurd h (by decide)
  split at h
  · assumption
  · exact absurd h (by decide)

/-- A source stands alike with rosters that agree about it. -/
theorem standing_congr (hn : r.next ≤ id.number ↔ r'.next ≤ id.number)
    (he : id ∈ r.effects ↔ id ∈ r'.effects) (hm : r.music = some id ↔ r'.music = some id) :
    r.standing id = r'.standing id := by
  unfold standing
  simp only [hn, he, hm]

/-- To give out a number touches the standing of no other source. -/
theorem next_le_iff (h : id ≠ r.fresh) : r.next ≤ id.number ↔ r.next + 1 ≤ id.number := by
  have hne : id.number ≠ r.next := fun hn => h (congrArg SourceId.mk hn)
  omega

/-- A number that is given out for nothing is past. -/
theorem standing_spent (hs : r.Sound) :
    ({ r with next := r.next + 1 } : Roster).standing r.fresh = .past :=
  standing_past (Nat.lt_succ_self _) hs.fresh_not_mem fun h => Nat.lt_irrefl _ (hs.music_lt _ h)

/-- An effect that is not kept is past. -/
theorem standing_forgotten (hs : r.Sound) {keeps : SourceId → Bool} (h : id ∈ r.effects)
    (hk : ¬ keeps id = true) :
    ({ r with effects := r.effects.filter keeps } : Roster).standing id = .past :=
  standing_past (hs.effects_lt id h) (fun hmem => hk (List.mem_filter.mp hmem).2)
    fun hm => hs.apart id hm h

/-- What is kept stands as before. -/
theorem standing_kept {keeps : SourceId → Bool} (h : id ∈ r.effects → keeps id = true) :
    r.standing id = ({ r with effects := r.effects.filter keeps } : Roster).standing id := by
  refine standing_congr Iff.rfl ?_ Iff.rfl
  rw [List.mem_filter]
  exact ⟨fun hmem => ⟨hmem, h hmem⟩, And.left⟩

/-- The track that leaves the slot is past. -/
theorem standing_left (hs : r.Sound) (h : r.music = some id) :
    ({ r with music := none } : Roster).standing id = .past :=
  standing_past (hs.music_lt id h) (hs.apart id h) (by simp)

end Roster

/-! ## 2. What a move is for one source -/

/-- What a move is for one source: how the source stands before it, what is put on file, and how the
source stands after it. -/
inductive Career (made : SourceId → Operation → Prop) (id : SourceId) :
    Standing → List Exchange → Standing → Prop
  | stays (standing : Standing) : Career made id standing [] standing
  | forgotten : Career made id .effect [] .past
  | refused (address : String) (mode : FetchMode) (failure : PlaybackFailure) :
      Career made id .unborn [⟨.createSource id address mode, .error failure⟩] .past
  | effectOpened {request : EffectRequest} {T : List Exchange}
      (hm : made id (.playEffect request)) (h : Opening id (request.levels id) T) :
      Career made id .unborn T .effect
  | musicOpened {request : MusicRequest} {T : List Exchange}
      (hm : made id (.playMusic request)) (h : Opening id (request.levels id) T) :
      Career made id .unborn T .music
  | musicResumed {T : List Exchange} (h : Resumption id T) : Career made id .music T .music
  | musicHalted {T : List Exchange} (h : Halt id T) : Career made id .music T .past
  | effectHalted {T : List Exchange} (h : Halt id T) : Career made id .effect T .past

/-- The calls of a block take a source from one standing to another one. -/
def Takes (made : SourceId → Operation → Prop) (id : SourceId) (before : Standing)
    (B : List Exchange) (after : Standing) : Prop :=
  ∃ T, (∀ X, dossier id (X ++ B) = dossier id X ++ T) ∧ Career made id before T after

section Careers

variable {made : SourceId → Operation → Prop} {id owner : SourceId} {r r' : Roster}
  {before after : Standing} {B : List Exchange}

/-- The source that a block is about gains what the block tells. -/
theorem takes_own (hB : Block (some id) B) (h : Career made id before (telling B) after) :
    Takes made id before B after :=
  ⟨telling B, fun X => by rw [dossier_append hB, if_pos rfl], h⟩

/-- All other sources stay as they are. -/
theorem takes_other {owner : Option SourceId} (hB : Block owner B) (hid : owner ≠ some id)
    (h : before = after) : Takes made id before B after := by
  subst h
  exact ⟨[], fun X => by rw [dossier_append hB, if_neg hid], .stays before⟩

theorem some_ne_some (h : id ≠ owner) : some owner ≠ some id :=
  fun heq => h (Option.some.inj heq).symm

/-- The source that a block is about takes a step, and none of the others notices. -/
theorem takes_step (hB : Block (some owner) B)
    (hstep : Career made owner (r.standing owner) (telling B) (r'.standing owner))
    (hother : id ≠ owner → r.standing id = r'.standing id) :
    Takes made id (r.standing id) B (r'.standing id) := by
  by_cases hid : id = owner
  · subst hid
    exact takes_own hB hstep
  · exact takes_other hB (some_ne_some hid) (hother hid)

/-- **For every source, a move is a step of its career.** -/
theorem Move.takes (h : Move made r B r') (hs : r.Sound) (id : SourceId) :
    Takes made id (r.standing id) B (r'.standing id) := by
  have hs' : r'.Sound := h.sound hs
  cases h with
  | general hB => exact takes_other (block_of_general hB) (by simp) rfl
  | forgets keeps =>
    -- the one way into the past without a call, so there is nothing to put on file
    refine ⟨[], fun X => by simp, ?_⟩
    by_cases hid : id ∈ r.effects ∧ ¬ keeps id = true
    · rw [Roster.standing_effect hs hid.1, Roster.standing_forgotten hs hid.1 hid.2]
      exact .forgotten
    · have hkept : id ∈ r.effects → keeps id = true :=
        fun hmem => not_not.mp fun hk => hid ⟨hmem, hk⟩
      rw [← Roster.standing_kept hkept]
      exact .stays _
  -- a number that is given out is about a source that stood nowhere
  | refused address mode failure =>
    refine takes_step (block_attempt _ _ _ _) ?_ fun hid => ?_
    · rw [r.standing_fresh, Roster.standing_spent hs]
      exact .refused address mode failure
    · exact Roster.standing_congr (Roster.next_le_iff hid) Iff.rfl Iff.rfl
  | opensEffect hm hB ho =>
    refine takes_step hB ?_ fun hid => ?_
    · rw [r.standing_fresh, Roster.standing_effect hs' (List.mem_append_right _ List.mem_cons_self)]
      exact .effectOpened hm ho
    · refine Roster.standing_congr (Roster.next_le_iff hid) ?_ Iff.rfl
      rw [List.mem_append, List.mem_singleton, or_iff_left hid]
  | opensMusic hempty hm hB ho =>
    refine takes_step hB ?_ fun hid => ?_
    · rw [r.standing_fresh, Roster.standing_music hs' rfl]
      exact .musicOpened hm ho
    · refine Roster.standing_congr (Roster.next_le_iff hid) Iff.rfl ?_
      rw [hempty]
      exact ⟨fun h => absurd h (by simp), fun h => absurd h (some_ne_some hid)⟩
  -- the others are about a source that has its place already, and keeps it or leaves it
  | resumesMusic howner hB hr =>
    refine takes_step hB ?_ fun _ => rfl
    rw [Roster.standing_music hs howner]
    exact .musicResumed hr
  | haltsMusic howner hB hh =>
    refine takes_step hB ?_ fun hid => Roster.standing_congr Iff.rfl Iff.rfl ?_
    · rw [Roster.standing_music hs howner, Roster.standing_left hs howner]
      exact .musicHalted hh
    · rw [howner]
      exact ⟨fun h => absurd h (some_ne_some hid), fun h => absurd h (by simp)⟩
  | haltsEffect howner hB hh =>
    refine takes_step hB ?_ fun hid => Roster.standing_kept fun _ => decide_eq_true hid
    rw [Roster.standing_effect hs howner, Roster.standing_forgotten hs howner (by simp)]
    exact .effectHalted hh

end Careers

/-! ## 3. Every source is accounted for -/

/-- What the dossier of a source must be, as it stands. -/
inductive Account (made : SourceId → Operation → Prop) (id : SourceId) :
    Standing → List Exchange → Prop
  | unborn : Account made id .unborn []
  | effect {request : EffectRequest} {D : List Exchange} (hm : made id (.playEffect request))
      (h : EffectCourse id request false D) : Account made id .effect D
  | music {request : MusicRequest} {D : List Exchange} (hm : made id (.playMusic request))
      (h : MusicCourse id request false D) : Account made id .music D
  | never : Account made id .past []
  | refused (address : String) (mode : FetchMode) (failure : PlaybackFailure) :
      Account made id .past [⟨.createSource id address mode, .error failure⟩]
  | pastEffect {request : EffectRequest} {halted : Bool} {D : List Exchange}
      (hm : made id (.playEffect request)) (h : EffectCourse id request halted D) :
      Account made id .past D
  | pastMusic {request : MusicRequest} {D : List Exchange} (hm : made id (.playMusic request))
      (h : MusicCourse id request true D) : Account made id .past D

section Accounts

variable {made : SourceId → Operation → Prop} {id : SourceId} {r r' : Roster}
  {before after : Standing} {B D T X : List Exchange}

theorem Account.of_music (h : Account made id .music D) :
    ∃ request, made id (.playMusic request) ∧ MusicCourse id request false D := by
  cases h with
  | music hm h => exact ⟨_, hm, h⟩

/-- What a career puts on file is what the course of the source has next. -/
theorem Career.account (h : Career made id before T after) (ha : Account made id before D) :
    Account made id after (D ++ T) := by
  cases h with
  | stays =>
    rw [List.append_nil]
    exact ha
  | forgotten =>
    rw [List.append_nil]
    cases ha with
    | effect hm h => exact .pastEffect hm h
  | refused address mode failure =>
    cases ha
    exact .refused address mode failure
  | effectOpened hm h =>
    cases ha
    exact .effect hm (.opened h)
  | musicOpened hm h =>
    cases ha
    exact .music hm (.opened h)
  | musicResumed hT =>
    cases ha with
    | music hm h => exact .music hm (h.resumed hT)
  | musicHalted hT =>
    cases ha with
    | music hm h => exact .pastMusic hm (h.halted hT)
  | effectHalted hT =>
    cases ha with
    | effect hm h => exact .pastEffect hm (h.halted hT)

/-- **Moves keep all accounts.** -/
theorem Moves.account (h : Moves made r X r') (hs : r.Sound) {Y : List Exchange}
    (ha : Account made id (r.standing id) (dossier id Y)) :
    Account made id (r'.standing id) (dossier id (Y ++ X)) := by
  induction h generalizing Y with
  | refl =>
    rw [List.append_nil]
    exact ha
  | head hB _ ih =>
    obtain ⟨T, hT, hcareer⟩ := hB.takes hs id
    have hnext := hcareer.account ha
    rw [← hT] at hnext
    rw [← List.append_assoc]
    exact ih (hB.sound hs) hnext

/-- From the beginning every source is accounted for. -/
theorem Moves.account_of_opening (h : Moves made .opening X r) (id : SourceId) :
    Account made id (r.standing id) (dossier id X) := by
  refine h.account Roster.opening_sound (Y := []) ?_
  by_cases hid : 1 ≤ id.number
  · rw [Roster.standing_of_le hid]
    exact .unborn
  · rw [Roster.standing_past (Nat.not_le.mp hid) List.not_mem_nil (by simp [Roster.opening])]
    exact .never

end Accounts

/-! ## 4. The past -/

section Past

variable {made : SourceId → Operation → Prop} {id : SourceId} {r r' : Roster} {B X : List Exchange}

/-- What a block names is what it is about. -/
theorem Block.source?_eq {owner : Option SourceId} (hB : Block owner B) (hid : owner ≠ some id) :
    ∀ x ∈ B, x.call.source? ≠ some id := by
  intro x hx hs
  by_cases hw : x.call.isWiring = true
  · rw [Call.source?_of_isWiring hw] at hs
    exact absurd hs (by simp)
  · exact hid ((hB.about x hx (Bool.eq_false_iff.mpr hw)).symm.trans hs)

/-- **A source that is past stays so**, and no call names it. -/
theorem Move.past (h : Move made r B r') (hp : r.standing id = .past) :
    r'.standing id = .past ∧ ∀ x ∈ B, x.call.source? ≠ some id := by
  obtain ⟨hlt, he, hmusic⟩ := Roster.past_iff.mp hp
  have hfresh : id ≠ r.fresh := fun h => Nat.lt_irrefl r.next (by rwa [h] at hlt)
  rw [Roster.past_iff]
  cases h with
  | general hB => exact ⟨⟨hlt, he, hmusic⟩, (block_of_general hB).source?_eq (by simp)⟩
  | forgets => exact ⟨⟨hlt, fun h => he (List.mem_filter.mp h).1, hmusic⟩, by simp⟩
  | refused =>
    exact ⟨⟨Nat.lt_succ_of_lt hlt, he, hmusic⟩,
      (block_attempt _ _ _ _).source?_eq (some_ne_some hfresh)⟩
  | opensEffect _ hB =>
    refine ⟨⟨Nat.lt_succ_of_lt hlt, fun h => ?_, hmusic⟩, hB.source?_eq (some_ne_some hfresh)⟩
    rcases List.mem_append.mp h with h | h
    · exact he h
    · exact hfresh (List.mem_singleton.mp h)
  | opensMusic _ _ hB =>
    exact ⟨⟨Nat.lt_succ_of_lt hlt, he, some_ne_some hfresh⟩, hB.source?_eq (some_ne_some hfresh)⟩
  | resumesMusic howner hB =>
    exact ⟨⟨hlt, he, hmusic⟩, hB.source?_eq (howner ▸ hmusic)⟩
  | haltsMusic howner hB => exact ⟨⟨hlt, he, by simp⟩, hB.source?_eq (howner ▸ hmusic)⟩
  | haltsEffect howner hB =>
    refine ⟨⟨hlt, fun h => he (List.mem_filter.mp h).1, hmusic⟩, hB.source?_eq (some_ne_some ?_)⟩
    rintro rfl
    exact he howner

theorem Moves.past (h : Moves made r X r') (hp : r.standing id = .past) :
    r'.standing id = .past ∧ ∀ x ∈ X, x.call.source? ≠ some id := by
  induction h with
  | refl => exact ⟨hp, by simp⟩
  | head hB _ ih =>
    obtain ⟨hpast, hnone⟩ := hB.past hp
    obtain ⟨hpast', hnone'⟩ := ih hpast
    exact ⟨hpast', List.forall_mem_append.mpr ⟨hnone, hnone'⟩⟩

end Past

/-! ## 5. All runs -/

/-- Once a drain has taken a final event of a tracked effect, no call names its source, in this
passage or in any later one. -/
theorem unnamed_of_finishes {now : Situation H} (hl : now.session.Listening)
    (hs : now.engine.roster.Sound) {steps : List (Step H)} {before later : List (Passage H)}
    {p : Passage H} {id : SourceId} (h : now.history steps = before ++ p :: later)
    (ht : p.start.engine.effects.tracks id = true) (hf : p.Finishes id) :
    ∀ q ∈ p :: later, ∀ x ∈ q.exchanges, x.call.source? ≠ some id := by
  have hp : p ∈ now.history steps := h ▸ List.mem_append_right before List.mem_cons_self
  have hlp := listening_of_mem_history hl hp
  have hsp := sound_of_mem_history hl hs hp
  obtain ⟨most, rest, -, -, -, rfl⟩ := history_split h
  have hheld : id ∈ p.start.engine.roster.effects := Effects.tracks_iff.mp ht
  have hpast : (Conduct.heeded p.start.engine p.consumed).roster.standing id = .past := by
    rw [Conduct.heeded_roster]
    refine Roster.standing_past (hsp.effects_lt id hheld) (fun hm => ?_)
      fun hm => hsp.apart id hm hheld
    exact of_decide_eq_true (List.mem_filter.mp hm).2 hf
  have hsh : (Conduct.heeded p.start.engine p.consumed).roster.Sound := by
    rw [Conduct.heeded_roster]
    exact hsp.filter _
  have hmoves := Passage.moves_heeded hlp hsh
  obtain ⟨hpast', hnone⟩ := hmoves.past hpast
  have hlater := run_moves (Passage.finish_listening hlp) (hmoves.sound hsh) rest
  intro q hq
  rcases List.mem_cons.mp hq with rfl | hq
  · exact hnone
  · exact fun x hx => (hlater.past hpast').2 x (List.mem_flatMap.mpr ⟨q, hq, hx⟩)

/-- What a source was built for decides its course. -/
theorem course_of_built (settings : Settings) (host : H.State) (steps : List (Step H))
    {id : SourceId} :
    let start : Situation H := .opening settings host
    let X := exchangesOf (start.after steps).session.chronicle
    Built id X →
      (∃ request halted, Made (start.history steps) id (.playEffect request) ∧
        EffectCourse id request halted (dossier id X)) ∨
      (∃ request halted, Made (start.history steps) id (.playMusic request) ∧
        MusicCourse id request halted (dossier id X)) := by
  intro start X hb
  obtain ⟨address, mode, hx⟩ := hb.dossier
  have haccount := (trace_moves settings host steps).account_of_opening id
  generalize dossier id X = D at hx haccount ⊢
  generalize (start.after steps).engine.roster.standing id = standing at haccount
  cases haccount with
  | unborn => exact absurd hx List.not_mem_nil
  | effect hm h => exact .inl ⟨_, _, hm, h⟩
  | music hm h => exact .inr ⟨_, _, hm, h⟩
  | never => exact absurd hx List.not_mem_nil
  | refused => exact absurd (List.mem_singleton.mp hx) (by simp)
  | pastEffect hm h => exact .inl ⟨_, _, hm, h⟩
  | pastMusic hm h => exact .inr ⟨_, _, hm, h⟩

/-- **The protocol of calls.**  Over every host, from every configuration and through every run: the
calls about a source that was built follow the course of an effect or that of a track, as requested
by the operation that built it; and from the drain on that takes a final event of a tracked effect,
no call names its source. -/
theorem call_protocol (settings : Settings) (host : H.State) (steps : List (Step H)) :
    let start : Situation H := .opening settings host
    let history := start.history steps
    let X := exchangesOf (start.after steps).session.chronicle
    (∀ id, Built id X →
      (∃ request halted, Made history id (.playEffect request) ∧
        EffectCourse id request halted (dossier id X)) ∨
      (∃ request halted, Made history id (.playMusic request) ∧
        MusicCourse id request halted (dossier id X))) ∧
    ∀ before p later id, history = before ++ p :: later →
      p.start.engine.effects.tracks id = true → p.Finishes id →
        ∀ q ∈ p :: later, ∀ x ∈ q.exchanges, x.call.source? ≠ some id := by
  intro start history X
  have hl : start.session.Listening := opening_listening settings host
  have hs : start.engine.roster.Sound := after_sound settings host []
  refine ⟨fun id => course_of_built settings host steps, fun before p later id => ?_⟩
  exact unnamed_of_finishes hl hs

end SoundEngine
