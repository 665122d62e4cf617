import SoundEngine.Proofs.BySource
import SoundEngine.Proofs.Numbering

/-!
# Effects and music commute

Whether an effect is played before or after something is done to the music cannot be told, over a host
that answers by source.  The two orders are not the same to the host: if both operations build a
source, the sources get each other's numbers.  And they are not the same to the engine on the way, for
the second operation heeds what was reported during the first: of an effect that ends as soon as it
starts, the music finds nothing left if it comes second, but the drain finds it tracked if the effect does.

* §1 has what an operation does to an engine as a `Change`, and shows that corresponding changes are
  made whatever other sources have been told before.
* §2 is about numbers: how many an operation uses up, and that no source is named before it has one.
* §3 has the same for the passages of a run.
* §4 puts the changes together.  Each of the two operations is compared with itself, once as the first
  and once as the second; what the other one has done meanwhile is about other sources.
-/

namespace SoundEngine

open Conduct Likeness

variable {H : Host}

/-! ## 1. Changes -/

/-- What an operation on sounds and music does to an engine: how many numbers it uses up, how many
sources are built, the effect that is tracked from then on, and what the slot holds from then on. -/
structure Change where
  attempts : Nat
  built : Nat
  effect : Option ActiveEffect
  music : Option Music

/-- The engine after a change. -/
def Engine.changed (e : Engine) (d : Change) : Engine :=
  { e with
    supply := ⟨e.supply.next + d.attempts, e.supply.created + d.built⟩
    effects := d.effect.elim e.effects e.effects.insert
    music := d.music.getD e.music }

/-- Two changes correspond. -/
structure Likeness.Changes (K : Likeness) (d d' : Change) : Prop where
  attempts : d'.attempts = d.attempts
  built : d'.built = d.built
  effect : Option.Rel K.Effects d.effect d'.effect
  music : Option.Rel (Option.Rel K.Tracks) d.music d'.music

/-- Two answers to operations on sounds and music correspond. -/
inductive Likeness.Answers (K : Likeness) : Answer → Answer → Prop
  | effect {outcome outcome' : EffectOutcome} (h : K.EffectOutcomes outcome outcome') :
      Answers K (.effect outcome) (.effect outcome')
  | music {outcome outcome' : MusicOutcome} (h : K.MusicOutcomes outcome outcome') :
      Answers K (.music outcome) (.music outcome')
  | done : Answers K .done .done

theorem Likeness.Within.answers {K K' : Likeness} (h : K.Within K') {answer answer' : Option Answer}
    (ha : Option.Rel K.Answers answer answer') : Option.Rel K'.Answers answer answer' := by
  cases ha with
  | none => exact .none
  | some ha =>
    cases ha with
    | effect ho => exact .some (.effect (h.effectOutcomes ho))
    | music ho => exact .some (.music (h.musicOutcomes ho))
    | done => exact .some .done

/-- Two operations answer correspondingly, and make corresponding changes of one kind. -/
structure Likeness.Acts (K : Likeness) (e e' : Engine) (kind : Change → Prop)
    (r r' : Answer × Engine) : Prop where
  answer : K.Answers r.1 r'.1
  change : ∃ d d', K.Changes d d' ∧ kind d ∧ r.2 = e.changed d ∧ r'.2 = e'.changed d'

/-- To change nothing is a change of either kind. -/
theorem Likeness.Acts.idle {K : Likeness} {e e' : Engine} {kind : Change → Prop}
    (hkind : kind ⟨0, 0, none, none⟩) {answer answer' : Answer} (h : K.Answers answer answer') :
    K.Acts e e' kind (answer, e) (answer', e') :=
  ⟨h, ⟨0, 0, none, none⟩, ⟨0, 0, none, none⟩, ⟨rfl, rfl, .none, .none⟩, hkind, rfl, rfl⟩

/-- The operation asks the host for a source. -/
def Engine.asks (e : Engine) : Operation → Bool
  | .playEffect request => (Address.resolve request.name e.settings.effectiveBase).isSome
  | .playMusic request =>
    (Address.resolve request.name e.settings.effectiveBase).isSome &&
      !e.music.any (·.answers request)
  | _ => false

/-- The change leaves the music. -/
def Change.OfEffect (d : Change) : Prop := d.music = none

/-- The change leaves the tracked effects. -/
def Change.OfMusic (d : Change) : Prop := d.effect = none

/-- Whether an operation asks for a source depends on the names that stand for addresses, and on the
track in the slot. -/
theorem Engine.asks_congr {e e' : Engine} (hsettings : e'.settings = e.settings)
    (hmusic : e'.music = e.music) (op : Operation) : e'.asks op = e.asks op := by
  cases op with
  | playEffect request =>
    dsimp only [Engine.asks]
    rw [hsettings]
  | playMusic request =>
    dsimp only [Engine.asks]
    rw [hsettings, hmusic]
  | _ => rfl

section Changes

variable {nodes : SourceId → SourceId → Node → Node → Prop} {σ : Equiv.Perm SourceId}
  {D : SourceId → Prop} {st : H.State} {fresh : Nat} {e e' : Engine}
  (hH : H.AnswersBySource nodes st fresh)
  (hσ : ∀ id, id = σ id ∨ fresh ≤ id.number ∧ fresh ≤ (σ id).number)

include hH hσ

/-- Stopping a track that is exchanged with none. -/
theorem stop_mates {music : Music}
    (hold : ∀ t, music = some t → D t.source ∧ σ t.source = t.source) :
    Mates (exchanging nodes σ D) (H.Told nodes σ D st) (H.Told nodes σ D st)
      (fun left left' => left = none ∧ left' = none) (music.stop : HostM H Music) music.stop := by
  cases music with
  | none => exact mates_pure ⟨rfl, rfl⟩
  | some t =>
    obtain ⟨hD, hsame⟩ := hold t rfl
    have hfollows := told_follows hH hσ hD
    have hhalt := mates_within (pair_within hD) (halt_mates hfollows ⟨rfl, hsame.symm⟩)
    refine mates_bind (mates_after hhalt hfollows.weaken) fun _ _ _ => ?_
    exact mates_bind (mates_log _ _) fun _ _ _ => mates_pure ⟨rfl, rfl⟩

/-- **Stopping the music** makes corresponding changes. -/
theorem stopMusic_acts (hmusic : e'.music = e.music)
    (hold : ∀ t, e.music = some t → D t.source ∧ σ t.source = t.source) (n n' : Nat) :
    Mates (exchanging nodes σ D) (H.Told nodes σ D st) (H.Told nodes σ D st)
      ((exchanging nodes σ D).Acts e e' Change.OfMusic)
      (e.act n .stopMusic : HostM H _) (e'.act n' .stopMusic) := by
  dsimp only [Engine.act]
  rw [hmusic]
  refine mates_bind (stop_mates hH hσ hold) fun _ _ hleft => ?_
  obtain ⟨rfl, rfl⟩ := hleft
  exact mates_pure ⟨.done, ⟨0, 0, none, some none⟩, ⟨0, 0, none, some none⟩,
    ⟨rfl, rfl, .none, .some .none⟩, rfl, rfl, rfl⟩

variable (hsettings : e'.settings = e.settings) (hpage : e'.page = e.page) (hmixer : e'.mixer = e.mixer)

include hsettings hpage hmixer

/-- **Playing an effect** makes corresponding changes. -/
theorem effect_acts (request : EffectRequest)
    (hnext : e.asks (.playEffect request) = true →
      D e.supply.nextId ∧ e'.supply.nextId = σ e.supply.nextId) (n n' : Nat) :
    Mates (exchanging nodes σ D) (H.Told nodes σ D st) (H.Told nodes σ D st)
      ((exchanging nodes σ D).Acts e e' Change.OfEffect)
      (e.act n (.playEffect request) : HostM H _) (e'.act n' (.playEffect request)) := by
  obtain ⟨settings, page, supply', mixer, effects', music'⟩ := e'
  obtain rfl : settings = e.settings := hsettings
  obtain rfl : page = e.page := hpage
  obtain rfl : mixer = e.mixer := hmixer
  unfold Engine.asks at hnext
  dsimp only [Engine.act] at hnext ⊢
  cases haddress : Address.resolve request.name e.settings.effectiveBase with
  | none =>
    rw [Effects.play_skipped haddress, Effects.play_skipped haddress]
    exact mates_pure (.idle (show Change.OfEffect _ from rfl) (.effect .skipped))
  | some address =>
    rw [haddress] at hnext
    obtain ⟨hD, hid⟩ := hnext rfl
    have hwithin : (pair nodes e.supply.nextId (σ e.supply.nextId)).Within (exchanging nodes σ D) :=
      pair_within hD
    have hplay := playEffect_mates (told_follows hH hσ hD) ⟨rfl, hid⟩ e.effects effects'
      (.refl e.mixer) e.page (.refl request) haddress
    refine mates_bind (mates_within hwithin hplay) fun _ _ hplayed => ?_
    cases hplayed with
    | failed failure =>
      exact mates_pure ⟨.effect (.failed failure), ⟨1, 0, none, none⟩, ⟨1, 0, none, none⟩,
        ⟨rfl, rfl, .none, .none⟩, rfl, rfl, rfl⟩
    | @played route route' h hroute attached start =>
      exact mates_pure ⟨.effect (.played (hwithin.source h) attached start),
        ⟨1, 1, some ⟨e.supply.nextId, route⟩, none⟩, ⟨1, 1, some ⟨supply'.nextId, route'⟩, none⟩,
        ⟨rfl, rfl, .some ⟨hwithin.source h, hwithin.routes hroute⟩, .none⟩, rfl, rfl, rfl⟩

/-- **Playing music** makes corresponding changes. -/
theorem playMusic_acts (request : MusicRequest) (hmusic : e'.music = e.music)
    (hold : ∀ t, e.music = some t → D t.source ∧ σ t.source = t.source)
    (hnext : e.asks (.playMusic request) = true →
      D e.supply.nextId ∧ e'.supply.nextId = σ e.supply.nextId) (n n' : Nat) :
    Mates (exchanging nodes σ D) (H.Told nodes σ D st) (H.Told nodes σ D st)
      ((exchanging nodes σ D).Acts e e' Change.OfMusic)
      (e.act n (.playMusic request) : HostM H _) (e'.act n' (.playMusic request)) := by
  obtain ⟨settings, page, supply', mixer, effects', music'⟩ := e'
  obtain rfl : settings = e.settings := hsettings
  obtain rfl : page = e.page := hpage
  obtain rfl : mixer = e.mixer := hmixer
  obtain rfl : music' = e.music := hmusic
  unfold Engine.asks at hnext
  dsimp only [Engine.act] at hnext ⊢
  unfold Music.play
  cases haddress : Address.resolve request.name e.settings.effectiveBase with
  | none => exact mates_pure (.idle (show Change.OfMusic _ from rfl) (.music .skipped))
  | some address =>
    dsimp only
    -- the track that answers goes on, and every other one makes room for a new one
    cases hfilter : e.music.filter (·.answers request) with
    | some t =>
      obtain ⟨hD, hsame⟩ := hold t (Option.filter_eq_some_iff.mp hfilter).1
      have hwithin : (pair nodes t.source (σ t.source)).Within (exchanging nodes σ D) :=
        pair_within hD
      have hsource : (pair nodes t.source (σ t.source)).source t.source t.source :=
        ⟨rfl, hsame.symm⟩
      have hresume := resume_mates (told_follows hH hσ hD) hsource
      simp only [bind_assoc, pure_bind]
      refine mates_bind (mates_within hwithin hresume) fun _ _ houtcome => ?_
      exact mates_pure (.idle (show Change.OfMusic _ from rfl) (.music (hwithin.musicOutcomes houtcome)))
    | none =>
      have hother : e.music.any (·.answers request) = false := by
        rw [← Option.isSome_filter, hfilter]
        rfl
      rw [haddress, hother] at hnext
      obtain ⟨hD, hid⟩ := hnext rfl
      have hwithin : (pair nodes e.supply.nextId (σ e.supply.nextId)).Within (exchanging nodes σ D) :=
        pair_within hD
      have hbegin := begin_mates (told_follows hH hσ hD) ⟨rfl, hid⟩ (.refl e.mixer) e.page address
        request
      simp only [bind_assoc]
      -- the old track is halted under its own number, the new one starts under the renamed one
      refine mates_bind (stop_mates hH hσ hold) fun _ _ _ => ?_
      refine mates_bind (mates_within hwithin hbegin) fun _ _ hbegun => ?_
      cases hbegun with
      | failed failure =>
        exact mates_pure ⟨.music (.failed failure), ⟨1, 0, none, some none⟩, ⟨1, 0, none, some none⟩,
          ⟨rfl, rfl, .none, .some .none⟩, rfl, rfl, rfl⟩
      | @started route route' h hroute attached start =>
        exact mates_pure ⟨.music (.started (hwithin.source h) attached start),
          ⟨1, 1, none, some (some ⟨e.supply.nextId, request.name, request.loops, route⟩)⟩,
          ⟨1, 1, none, some (some ⟨supply'.nextId, request.name, request.loops, route'⟩)⟩,
          ⟨rfl, rfl, .none, .some (.some ⟨hwithin.source h, rfl, rfl, hwithin.routes hroute⟩)⟩,
          rfl, rfl, rfl⟩

end Changes

/-! ## 2. Numbers -/

/-- **Numbers are used up by the operations that ask for a source**, one by each. -/
theorem Conduct.acts_next {drained : List Notice} {e e' : Engine} {op : Operation} {answer : Answer}
    {L : List Entry} (h : Acts drained e op (answer, e') L) :
    e'.supply.next = e.supply.next + (e.asks op).toNat := by
  cases h with
  | playEffect hL =>
    dsimp only [Engine.asks]
    cases hL with
    | skipped h =>
      rw [h]
      rfl
    | failed h hL | played h hL =>
      rw [h]
      exact creating_next hL
  | playMusic hL =>
    dsimp only [Engine.asks]
    cases hL with
    | skipped h =>
      rw [h]
      rfl
    | answered h ht ha =>
      rw [h, ht]
      simp [ha]
    | replaced h hother _ hK =>
      rw [h, (Option.any_eq_false _ _).mpr hother]
      cases hK with
      | failed hL | started hL => exact creating_next hL
  | _ => rfl

section Moves

variable {made : SourceId → Operation → Prop} {r r' : Roster} {B X : List Exchange}

/-- No move begins with a step in the graph. -/
theorem Move.head (h : Move made r B r') : ∀ x ∈ B.head?, x.call.isWiring = false := by
  cases h with
  | general hB => exact (block_of_general hB).head
  | forgets => exact fun _ h => absurd h (by simp)
  | refused address mode failure => exact (block_attempt _ address mode _).head
  | opensEffect _ hB | opensMusic _ _ hB | resumesMusic _ hB | haltsMusic _ hB | haltsEffect _ hB =>
    exact hB.head

theorem Moves.head_row (h : Moves made r X r') : ∀ x ∈ X.head?, x.call.isWiring = false := by
  induction h with
  | refl => exact fun _ h => absurd h (by simp)
  | @head r r₁ r' B X hB _ ih =>
    cases B with
    | nil => exact ih
    | cons x B => exact hB.head

/-- A move names only sources that have a number after it. -/
theorem Move.source_lt (h : Move made r B r') (hs : r.Sound) :
    ∀ x ∈ B, ∀ id, x.call.source? = some id → id.number < r'.next := by
  intro x hx id hid
  have hown {owner : SourceId} (hB : Block (some owner) B) : id = owner :=
    Option.some.inj (hid.symm.trans (hB.about x hx (Call.isWiring_of_source? hid)))
  cases h with
  | general hB => exact absurd (Call.source?_of_isGeneral (hB x hx)) (by simp [hid])
  | forgets => exact absurd hx List.not_mem_nil
  | refused address mode failure =>
    rw [hown (block_attempt _ address mode _)]
    exact Nat.lt_succ_self _
  | opensEffect _ hB | opensMusic _ _ hB =>
    rw [hown hB]
    exact Nat.lt_succ_self _
  | resumesMusic hmusic hB | haltsMusic hmusic hB =>
    rw [hown hB]
    exact hs.music_lt _ hmusic
  | haltsEffect heffect hB =>
    rw [hown hB]
    exact hs.effects_lt _ heffect

theorem Moves.source_lt (h : Moves made r X r') (hs : r.Sound) :
    ∀ x ∈ X, ∀ id, x.call.source? = some id → id.number < r'.next := by
  induction h with
  | refl => exact fun _ h => absurd h List.not_mem_nil
  | head hB hrest ih =>
    intro x hx id hid
    rcases List.mem_append.mp hx with hx | hx
    · exact Nat.lt_of_lt_of_le (hB.source_lt hs x hx id hid) hrest.next_le
    · exact ih (hB.sound hs) x hx id hid

end Moves

/-! ## 3. Passages that correspond -/

/-- One operation in two situations: the answers and the calls correspond; the engines, once they have
heeded the events that wait, are changed correspondingly; and corresponding events wait then. -/
structure Passage.Mirrors (K : Likeness) (d d' : Change) (N N' : List Notice) (p q : Passage H) :
    Prop where
  answer : Option.Rel K.Answers p.answer q.answer
  exchanges : List.Forall₂ K.Exchanges p.exchanges q.exchanges
  changes : K.Changes d d'
  notices : List.Forall₂ K.Notices N N'
  left : p.finish.settled = heeded (p.start.settled.changed d) N
  right : q.finish.settled = heeded (q.start.settled.changed d') N'

/-- **Operations that act correspondingly** lead through passages that correspond. -/
theorem Situation.mirrors {K : Likeness} {P Q : H.State → H.State → Prop} {kind : Change → Prop}
    {a b : Situation H} (ha : a.session.Listening) (hb : b.session.Listening) {op : Operation}
    (hd : drains op = true)
    (hacts : ∀ n n', Mates K P Q (K.Acts a.settled b.settled kind)
      (a.settled.act n op : HostM H _) (b.settled.act n' op))
    (hhost : P a.session.host b.session.host) :
    ∃ d d' N N', kind d ∧ (Passage.mk a (.perform op)).Mirrors K d d' N N' ⟨b, .perform op⟩ := by
  obtain ⟨waiting, hw⟩ := ha
  obtain ⟨waiting', hw'⟩ := hb
  have hmates := hacts waiting.length waiting'.length
  rw [← a.heeded_consumed hd, ← b.heeded_consumed hd] at hmates
  obtain ⟨⟨answer, answer', hanswer, hanswer', hboth, d, d', hchanges, hkind, hleft, hright⟩,
    hexchanges, -, N, N', hnotices, hmailbox, hmailbox'⟩ := Situation.mates hw hw' hmates hhost
  rw [if_pos hd, List.nil_append] at hmailbox hmailbox'
  rw [Situation.heeded_consumed _ hd] at hleft hright
  have hsettled {now : Situation H} {notices : List Notice}
      (h : now.session.mailbox = .listening notices) : now.settled = heeded now.engine notices := by
    unfold Situation.settled
    rw [h]
    rfl
  refine ⟨d, d', N, N', hkind, ?_, hexchanges, hchanges, hnotices, ?_, ?_⟩
  · rw [hanswer, hanswer']
    exact .some hboth
  · exact (hsettled hmailbox).trans (congrArg (heeded · N) hleft)
  · exact (hsettled hmailbox').trans (congrArg (heeded · N') hright)

/-- No passage begins with a step in the graph. -/
theorem Passage.head {p : Passage H} (hl : p.start.session.Listening)
    (hs : p.start.engine.roster.Sound) : ∀ x ∈ p.exchanges.head?, x.call.isWiring = false :=
  (Passage.moves hl hs).head_row

/-- What an operation that drains leaves as it is, and how many numbers it uses up. -/
theorem Passage.frame {p : Passage H} (hl : p.start.session.Listening) {op : Operation}
    (h : p.step = .perform op) (hd : drains op = true) :
    p.finish.settled.settings = p.start.settled.settings ∧
      p.finish.settled.page = p.start.settled.page ∧
      p.finish.settled.mixer = p.start.settled.mixer ∧
      p.finish.settled.supply.next =
        p.start.settled.supply.next + (p.start.settled.asks op).toNat := by
  obtain ⟨answer, L, -, -, hA⟩ := acted hl h
  have hnext := acts_next hA
  have hasks : (heeded p.start.engine p.consumed).asks op = p.start.settled.asks op :=
    Engine.asks_congr rfl rfl op
  rw [hasks] at hnext
  unfold Situation.settled at hnext ⊢
  generalize p.finish.engine = e' at hA hnext ⊢
  cases hA with
  | setGain | unlock | isUnlocked => exact absurd hd Bool.false_ne_true
  | _ => exact ⟨rfl, rfl, rfl, hnext⟩

theorem effect_music {now : Situation H} (hl : now.session.Listening) (request : EffectRequest) :
    (now.next (.perform (.playEffect request))).settled.music = now.settled.music := by
  obtain ⟨answer, L, -, -, hA⟩ :=
    Passage.acted (p := ⟨now, .perform (.playEffect request)⟩) hl rfl
  change (Passage.mk now (.perform (.playEffect request))).finish.engine.music = now.engine.music
  generalize (Passage.mk now (.perform (.playEffect request))).finish.engine = e' at hA ⊢
  cases hA with
  | playEffect => rfl

/-! ## 4. Both orders -/

/-- If both operations ask for a source, the two sources are exchanged. -/
def swapped (e : Engine) (s m : Operation) : Equiv.Perm SourceId :=
  if e.asks s = true ∧ e.asks m = true then
    Equiv.swap e.supply.nextId ⟨e.supply.next + 1⟩
  else Equiv.refl SourceId

/-- The source that an effect is about: the one that is built for it. -/
def Engine.OfEffect (e : Engine) (s : Operation) (id : SourceId) : Prop :=
  e.asks s = true ∧ id = e.supply.nextId

/-- The sources that an operation on the music is about, if it comes second: that of the track in the
slot, and the one that is built. -/
def Engine.OfMusic (e : Engine) (s m : Operation) (id : SourceId) : Prop :=
  (∃ t, e.music = some t ∧ id = t.source) ∨
    e.asks m = true ∧ id = ⟨e.supply.next + (e.asks s).toNat⟩

section Swapped

variable {e : Engine} {s m : Operation} {id : SourceId}

/-- The track in the slot was there before, and is no effect. -/
theorem Roster.Sound.track_lt (he : e.roster.Sound) {t : Track} (ht : e.music = some t) :
    t.source.number < e.supply.next :=
  he.music_lt t.source (congrArg (Option.map Track.source) ht)

theorem Roster.Sound.track_not_mem (he : e.roster.Sound) {t : Track} (ht : e.music = some t) :
    t.source ∉ e.effects.map ActiveEffect.source :=
  he.apart t.source (congrArg (Option.map Track.source) ht)

/-- Sources that were there before stay. -/
theorem swapped_old (h : id.number < e.supply.next) : swapped e s m id = id := by
  have hfirst : id ≠ e.supply.nextId := by
    rintro rfl
    exact Nat.lt_irrefl _ h
  have hsecond : id ≠ ⟨e.supply.next + 1⟩ := by
    rintro rfl
    exact Nat.not_succ_lt_self h
  unfold swapped
  split
  · exact Equiv.swap_apply_of_ne_of_ne hfirst hsecond
  · rfl

theorem swapped_effect (h : e.asks s = true) :
    swapped e s m e.supply.nextId = ⟨e.supply.next + (e.asks m).toNat⟩ := by
  unfold swapped
  cases hm : e.asks m with
  | false =>
    rw [if_neg fun hboth => Bool.false_ne_true hboth.2]
    rfl
  | true =>
    rw [if_pos ⟨h, rfl⟩, Equiv.swap_apply_left]
    rfl

theorem swapped_music (h : e.asks m = true) :
    swapped e s m ⟨e.supply.next + (e.asks s).toNat⟩ = e.supply.nextId := by
  unfold swapped
  cases hs : e.asks s with
  | false =>
    rw [if_neg fun hboth => Bool.false_ne_true hboth.1]
    rfl
  | true =>
    rw [if_pos ⟨rfl, h⟩]
    exact Equiv.swap_apply_right _ _

theorem swapped_fresh (id : SourceId) : id = swapped e s m id ∨
    e.supply.next ≤ id.number ∧ e.supply.next ≤ (swapped e s m id).number := by
  by_cases hold : id.number < e.supply.next
  · exact .inl (swapped_old hold).symm
  · refine .inr ⟨Nat.le_of_not_lt hold, Nat.le_of_not_lt fun hlt => hold ?_⟩
    have hback : swapped e s m (swapped e s m id) = swapped e s m id := swapped_old hlt
    rw [← (swapped e s m).injective hback]
    exact hlt

/-- No source is of both. -/
theorem Engine.OfEffect.not_ofMusic (he : e.roster.Sound) (h : e.OfEffect s id) :
    ¬ e.OfMusic s m id := by
  obtain ⟨hasks, rfl⟩ := h
  rintro (⟨t, ht, hsource⟩ | ⟨-, hsource⟩)
  · have hlt := he.track_lt ht
    rw [← hsource] at hlt
    exact Nat.lt_irrefl _ hlt
  · rw [hasks] at hsource
    exact Nat.succ_ne_self _ (SourceId.mk.inj hsource).symm

end Swapped

/-- The operation is one on the music alone.  To stop everything is none, since it halts the effects as
well. -/
def Operation.isMusical : Operation → Bool
  | .playMusic _ | .stopMusic => true
  | _ => false

section Orders

variable {nodes : SourceId → SourceId → Node → Node → Prop} {now : Situation H} {m : Operation}
  (hl : now.session.Listening) (hs : now.engine.roster.Sound)
  (hH : H.AnswersBySource nodes now.session.host now.engine.supply.next)

theorem drains_of_isMusical (h : m.isMusical = true) : drains m = true := by
  cases m with
  | playMusic | stopMusic => rfl
  | _ => exact absurd h Bool.false_ne_true

/-- The sources of corresponding exchanges. -/
theorem exchanges_sources {σ : Equiv.Perm SourceId} {D : SourceId → Prop} {X Y : List Exchange}
    (h : List.Forall₂ (exchanging nodes σ D).Exchanges X Y) :
    ∀ x ∈ X, ∀ id, x.call.source? = some id → D id := by
  refine ((List.forall₂_and_left _ _).mp (h.imp fun x y hxy => ⟨fun id hid => ?_, hxy⟩)).1
  have hsource := Calls.source? ⟨x.reply, y.reply, hxy⟩
  rw [hid] at hsource
  generalize y.call.source? = source at hsource
  cases hsource with
  | some h => exact h.1

/-- The sources of corresponding events. -/
theorem notices_sources {σ : Equiv.Perm SourceId} {D : SourceId → Prop} {N N' : List Notice}
    (h : List.Forall₂ (exchanging nodes σ D).Notices N N') :
    (∀ n ∈ N, D n.source) ∧ ∀ n ∈ N', ∃ id, D id ∧ n.source = σ id := by
  constructor
  · exact ((List.forall₂_and_left _ _).mp (h.imp fun _ _ hn => ⟨hn.source.1, hn⟩)).1
  · exact ((List.forall₂_and_left _ _).mp (h.flip.imp fun _ n hn => ⟨⟨n.source, hn.source⟩, hn⟩)).1

include hl hs hH

/-- **The effect first and second.** -/
theorem effect_mirrors (request : EffectRequest) (hd : drains m = true) :
    ∃ d d' N N', d.OfEffect ∧ (Passage.mk now (.perform (.playEffect request))).Mirrors
      (exchanging nodes (swapped now.settled (.playEffect request) m)
        (now.settled.OfEffect (.playEffect request))) d d' N N'
      ⟨now.next (.perform m), .perform (.playEffect request)⟩ := by
  let p : Passage H := ⟨now, .perform m⟩
  obtain ⟨hsettings, hpage, hmixer, hnext⟩ := Passage.frame (p := p) hl rfl hd
  have hmoves := Passage.moves (p := p) hl hs
  have hσ := swapped_fresh (e := now.settled) (s := .playEffect request) (m := m)
  refine Situation.mirrors hl (Passage.finish_listening (p := p) hl) rfl (fun n n' =>
    effect_acts hH hσ hsettings hpage hmixer request (fun hasks => ?_) n n') ?_
  · refine ⟨⟨hasks, rfl⟩, ?_⟩
    rw [swapped_effect hasks]
    exact congrArg SourceId.mk hnext
  · -- The operation on the music has told the source of the effect nothing, under its other number.
    refine ⟨[], p.exchanges.map Exchange.call, rfl, Passage.host_finish (p := p) hl rfl,
      anchored_nil, anchored_calls hmoves.head_row, fun id hid => ?_⟩
    obtain ⟨hasks, rfl⟩ := hid
    have hnone : ∀ x ∈ p.exchanges,
        x.call.source? ≠ some ⟨now.settled.supply.next + (now.settled.asks m).toNat⟩ := by
      intro x hx hid
      have hlt := hmoves.source_lt hs x hx _ hid
      exact Nat.lt_irrefl _ (Nat.lt_of_lt_of_eq hlt hnext)
    rw [swapped_effect hasks, callsAbout_eq_nil hnone]
    exact .nil

/-- **The operation on the music second and first.** -/
theorem music_mirrors (request : EffectRequest) (hm : m.isMusical = true) :
    ∃ d d' N N', d.OfMusic ∧
      (Passage.mk (now.next (.perform (.playEffect request))) (.perform m)).Mirrors
        (exchanging nodes (swapped now.settled (.playEffect request) m)
          (now.settled.OfMusic (.playEffect request) m)) d d' N N' ⟨now, .perform m⟩ := by
  let p : Passage H := ⟨now, .perform (.playEffect request)⟩
  obtain ⟨hsettings, hpage, hmixer, hnext⟩ := Passage.frame (p := p) hl rfl rfl
  have hmoves := Passage.moves (p := p) hl hs
  have hσ := swapped_fresh (e := now.settled) (s := .playEffect request) (m := m)
  have hmusic : p.finish.settled.music = now.settled.music := effect_music hl request
  have hhost : H.Told nodes (swapped now.settled (.playEffect request) m)
      (now.settled.OfMusic (.playEffect request) m) now.session.host p.finish.session.host
      now.session.host := by
    -- The effect has told the sources of the music nothing.
    refine ⟨p.exchanges.map Exchange.call, [], Passage.host_finish (p := p) hl rfl, rfl,
      anchored_calls hmoves.head_row, anchored_nil, fun id hid => ?_⟩
    have hnone : ∀ x ∈ p.exchanges, x.call.source? ≠ some id := by
      intro x hx hsource
      obtain ⟨_, _, _, _, -, hmirrors⟩ :=
        effect_mirrors hl hs hH request (drains_of_isMusical hm)
      have heffect := exchanges_sources hmirrors.exchanges x hx id hsource
      exact heffect.not_ofMusic (settled_sound hs) hid
    rw [callsAbout_eq_nil hnone]
    exact .nil
  have hold : ∀ t, p.finish.settled.music = some t →
      now.settled.OfMusic (.playEffect request) m t.source ∧
        swapped now.settled (.playEffect request) m t.source = t.source := by
    intro t ht
    rw [hmusic] at ht
    exact ⟨.inl ⟨t, ht, rfl⟩, swapped_old ((settled_sound hs).track_lt ht)⟩
  have hask : p.finish.settled.asks m = true →
      now.settled.OfMusic (.playEffect request) m p.finish.settled.supply.nextId ∧
        now.settled.supply.nextId =
          swapped now.settled (.playEffect request) m p.finish.settled.supply.nextId := by
    intro hasks
    rw [Engine.asks_congr hsettings hmusic] at hasks
    have hid : p.finish.settled.supply.nextId =
        ⟨now.settled.supply.next + (now.settled.asks (.playEffect request)).toNat⟩ :=
      congrArg SourceId.mk hnext
    rw [hid, swapped_music hasks]
    exact ⟨.inr ⟨hasks, rfl⟩, rfl⟩
  have hfinish := Passage.finish_listening (p := p) hl
  cases m with
  | stopMusic =>
    exact Situation.mirrors hfinish hl rfl (stopMusic_acts hH hσ hmusic.symm hold) hhost
  | playMusic r =>
    exact Situation.mirrors hfinish hl rfl (playMusic_acts hH hσ hsettings.symm hpage.symm
      hmixer.symm r hmusic.symm hold hask) hhost
  | _ => exact absurd hm Bool.false_ne_true

end Orders

/-- Everything is the same but the numbers of sources, which are exchanged, and the names of nodes. -/
def Likeness.upToNumbers (nodes : SourceId → SourceId → Node → Node → Prop)
    (σ : Equiv.Perm SourceId) : Likeness :=
  exchanging nodes σ fun _ => True

/-- The two engines are the same but for an exchange of numbers. -/
structure Engine.UpToNumbers (nodes : SourceId → SourceId → Node → Node → Prop)
    (σ : Equiv.Perm SourceId) (e e' : Engine) : Prop where
  settings : e'.settings = e.settings
  page : e'.page = e.page
  supply : e'.supply = e.supply
  mixer : e'.mixer = e.mixer
  effects : List.Forall₂ (upToNumbers nodes σ).Effects e.effects e'.effects
  music : Option.Rel (upToNumbers nodes σ).Tracks e.music e'.music

/-- The two situations are the same but for an exchange of numbers: the engines are, and so is all that
each source was told and has answered.  No event waits. -/
structure Situation.UpToNumbers (nodes : SourceId → SourceId → Node → Node → Prop)
    (σ : Equiv.Perm SourceId) (a b : Situation H) : Prop where
  engine : a.engine.UpToNumbers nodes σ b.engine
  histories : ∀ id, List.Forall₂ (upToNumbers nodes σ).Exchanges
    (historyOf id (exchangesOf a.session.chronicle))
    (historyOf (σ id) (exchangesOf b.session.chronicle))
  waiting : a.session.mailbox = .listening [] ∧ b.session.mailbox = .listening []

/-- Events of other sources leave the tracked effects. -/
theorem heeding_of_apart {effects : Effects} {notices : List Notice}
    (h : ∀ n ∈ notices, n.source ∉ effects.map ActiveEffect.source) :
    heeding effects notices = effects := by
  rw [heeding_eq_filter]
  refine List.filter_eq_self.mpr fun e he => decide_eq_true ?_
  rintro ⟨n, hn, hsource, -⟩
  exact h n hn (hsource ▸ List.mem_map_of_mem he)

section Both

variable {nodes : SourceId → SourceId → Node → Node → Prop} {e : Engine} {s m : Operation}
  {d d' dm dm' : Change} {N N' Nm Nm' : List Notice}

/-- **The tracked effects do not depend on the order.**  The events of the music end no effect, neither
before nor after the new one is tracked. -/
theorem effects_exchanged (he : e.roster.Sound)
    (hd : Option.Rel (exchanging nodes (swapped e s m) (e.OfEffect s)).Effects d.effect d'.effect)
    (hN : List.Forall₂ (exchanging nodes (swapped e s m) (e.OfEffect s)).Notices N N')
    (hNm : List.Forall₂ (exchanging nodes (swapped e s m) (e.OfMusic s m)).Notices Nm Nm') :
    List.Forall₂ (upToNumbers nodes (swapped e s m)).Effects
      (heeding (heeding (d.effect.elim e.effects e.effects.insert) N) Nm)
      (heeding (d'.effect.elim (heeding e.effects Nm') (heeding e.effects Nm').insert) N') := by
  -- the music reports about no effect, neither of those tracked already nor the new one
  have hbefore : ∀ n ∈ Nm', n.source ∉ e.effects.map ActiveEffect.source := by
    intro n hn hmem
    obtain ⟨id, hid, hsource⟩ := (notices_sources hNm).2 n hn
    rw [hsource] at hmem
    rcases hid with ⟨t, ht, rfl⟩ | ⟨hasks, rfl⟩
    · rw [swapped_old (he.track_lt ht)] at hmem
      exact he.track_not_mem ht hmem
    · rw [swapped_music hasks] at hmem
      exact he.fresh_not_mem hmem
  have hafter : ∀ id, e.OfMusic s m id →
      id ∉ (d.effect.elim e.effects e.effects.insert).map ActiveEffect.source := by
    intro id hid
    have hold : id ∉ e.effects.map ActiveEffect.source := by
      intro hmem
      rcases hid with ⟨t, ht, rfl⟩ | ⟨-, rfl⟩
      · exact he.track_not_mem ht hmem
      · exact Nat.not_lt_of_le (Nat.le_add_right _ _) (he.effects_lt _ hmem)
    generalize d.effect = new, d'.effect = new' at hd
    cases hd with
    | none => exact hold
    | some hnew =>
      rw [← Effects.tracks_iff, Option.elim_some, Effects.tracks_insert]
      rintro (rfl | hmem)
      · exact hnew.source.1.not_ofMusic he hid
      · exact hold (Effects.tracks_iff.mp hmem)
  have hstay : heeding (heeding (d.effect.elim e.effects e.effects.insert) N) Nm =
      heeding (d.effect.elim e.effects e.effects.insert) N := by
    refine heeding_of_apart fun n hn hmem => ?_
    rw [heeding_eq_filter] at hmem
    have hmem := (List.filter_sublist.map ActiveEffect.source).subset hmem
    exact hafter n.source ((notices_sources hNm).1 n hn) hmem
  rw [heeding_of_apart hbefore, hstay]
  have hwithin : (exchanging nodes (swapped e s m) (e.OfEffect s)).Within
      (upToNumbers nodes (swapped e s m)) := exchanging_within fun _ _ => trivial
  have hsame : List.Forall₂ (upToNumbers nodes (swapped e s m)).Effects e.effects e.effects := by
    refine List.forall₂_same.mpr fun a ha => .refl exchanging_node ⟨trivial, ?_⟩
    exact (swapped_old (he.effects_lt _ (List.mem_map_of_mem ha))).symm
  refine heeding_mates biUnique_exchanging ?_ (hN.imp fun _ _ => hwithin.notices)
  generalize d.effect = new, d'.effect = new' at hd
  cases hd with
  | none => exact hsame
  | some hnew => exact insert_mates biUnique_exchanging hsame (hwithin.effects hnew)

/-- **The track in the slot does not depend on the order.** -/
theorem music_exchanged (he : e.roster.Sound)
    (h : Option.Rel (Option.Rel (exchanging nodes (swapped e s m) (e.OfMusic s m)).Tracks) dm.music
      dm'.music) :
    Option.Rel (upToNumbers nodes (swapped e s m)).Tracks (dm.music.getD e.music)
      (dm'.music.getD e.music) := by
  generalize dm.music = music, dm'.music = music' at h
  cases h with
  | none =>
    cases ht : e.music with
    | none => exact .none
    | some t => exact .some (.refl exchanging_node ⟨trivial, (swapped_old (he.track_lt ht)).symm⟩)
  | some h =>
    cases h with
    | none => exact .none
    | some ht => exact .some ((exchanging_within fun _ _ => trivial).tracks ht)

/-- **The changes can be made in either order.** -/
theorem changes_exchanged (he : e.roster.Sound) (hd : d.OfEffect) (hdm : dm.OfMusic)
    (hs : (exchanging nodes (swapped e s m) (e.OfEffect s)).Changes d d')
    (hm : (exchanging nodes (swapped e s m) (e.OfMusic s m)).Changes dm dm')
    (hN : List.Forall₂ (exchanging nodes (swapped e s m) (e.OfEffect s)).Notices N N')
    (hNm : List.Forall₂ (exchanging nodes (swapped e s m) (e.OfMusic s m)).Notices Nm Nm') :
    (heeded ((heeded (e.changed d) N).changed dm) Nm).UpToNumbers nodes (swapped e s m)
      (heeded ((heeded (e.changed dm') Nm').changed d') N') := by
  obtain ⟨attempts, built, effect, kept⟩ := d
  obtain ⟨attempts', built', effect', kept'⟩ := d'
  obtain ⟨others, more, untouched, music⟩ := dm
  obtain ⟨others', more', untouched', music'⟩ := dm'
  obtain rfl : kept = none := hd
  obtain rfl : untouched = none := hdm
  obtain ⟨hattempts, hbuilt, heffect, hkept⟩ := hs
  obtain ⟨hothers, hmore, huntouched, hmusic⟩ := hm
  cases hkept
  cases huntouched
  refine ⟨rfl, rfl, ?_, rfl, effects_exchanged he heffect hN hNm, music_exchanged he hmusic⟩
  obtain rfl : attempts' = attempts := hattempts
  obtain rfl : built' = built := hbuilt
  obtain rfl : others' = others := hothers
  obtain rfl : more' = more := hmore
  exact congrArg₂ Supply.mk (Nat.add_right_comm _ _ _) (Nat.add_right_comm _ _ _)

/-- **The histories do not depend on the order**: each source has a history with one of the operations at
most, and no call of the one is put down to a source of the other. -/
theorem histories_exchanged (he : e.roster.Sound) {X Xs Xm Ys Ym : List Exchange}
    (hX : ∀ x ∈ X, ∀ id, x.call.source? = some id → id.number < e.supply.next)
    (hs : List.Forall₂ (exchanging nodes (swapped e s m) (e.OfEffect s)).Exchanges Xs Ys)
    (hm : List.Forall₂ (exchanging nodes (swapped e s m) (e.OfMusic s m)).Exchanges Xm Ym)
    (hheads : (∀ x ∈ Xs.head?, x.call.isWiring = false) ∧ (∀ x ∈ Xm.head?, x.call.isWiring = false) ∧
      (∀ x ∈ Ys.head?, x.call.isWiring = false) ∧ ∀ x ∈ Ym.head?, x.call.isWiring = false)
    (id : SourceId) :
    List.Forall₂ (upToNumbers nodes (swapped e s m)).Exchanges (historyOf id (X ++ Xs ++ Xm))
      (historyOf (swapped e s m id) (X ++ Ym ++ Ys)) := by
  obtain ⟨hXs, hXm, hYs, hYm⟩ := hheads
  rw [historyOf_append _ _ hXm, historyOf_append _ _ hXs, historyOf_append _ _ hYs,
    historyOf_append _ _ hYm, List.append_assoc, List.append_assoc]
  have hsame : List.Forall₂ (upToNumbers nodes (swapped e s m)).Exchanges X X := by
    refine List.forall₂_same.mpr fun x hx => .refl exchanging_node fun a ha => ⟨trivial, ?_⟩
    exact (swapped_old (hX x hx a ha)).symm
  have hK : Relator.BiUnique (upToNumbers nodes (swapped e s m)).source := biUnique_exchanging
  have hid : (upToNumbers nodes (swapped e s m)).source id (swapped e s m id) := ⟨trivial, rfl⟩
  have hwithin {D : SourceId → Prop} : (exchanging nodes (swapped e s m) D).Within
      (upToNumbers nodes (swapped e s m)) := exchanging_within fun _ _ => trivial
  have heffect : List.Forall₂ (upToNumbers nodes (swapped e s m)).Exchanges (historyOf id Xs)
      (historyOf (swapped e s m id) Ys) :=
    about_mates hK hid (hs.imp fun _ _ => hwithin.exchanges) .none
  have hmusical : List.Forall₂ (upToNumbers nodes (swapped e s m)).Exchanges (historyOf id Xm)
      (historyOf (swapped e s m id) Ym) :=
    about_mates hK hid (hm.imp fun _ _ => hwithin.exchanges) .none
  refine List.rel_append (about_mates hK hid hsame .none) ?_
  -- a source of the effect has no part in the calls of the music, and the other way round
  by_cases hown : e.OfEffect s id
  · have hnone : historyOf id Xm = [] := historyOf_eq_nil fun x hx hsource =>
      hown.not_ofMusic he (exchanges_sources hm x hx id hsource)
    rw [hnone, List.forall₂_nil_left_iff] at hmusical
    rw [hnone, hmusical, List.append_nil]
    exact heffect
  · have hnone : historyOf id Xs = [] := historyOf_eq_nil fun x hx hsource =>
      hown (exchanges_sources hs x hx id hsource)
    rw [hnone, List.forall₂_nil_left_iff] at heffect
    rw [hnone, heffect, List.append_nil]
    exact hmusical

end Both

/-- Two operations and a drain: the engine is settled then, and the drain makes no calls. -/
theorem Situation.settles (now : Situation H) (hl : now.session.Listening) (op op' : Operation) :
    let p : Passage H := ⟨now, .perform op⟩
    let q : Passage H := ⟨p.finish, .perform op'⟩
    let later := now.after [.perform op, .perform op', .perform .drain]
    later.engine = q.finish.settled ∧ later.session.mailbox = .listening [] ∧
      exchangesOf later.session.chronicle =
        exchangesOf now.session.chronicle ++ p.exchanges ++ q.exchanges := by
  intro p q later
  have hlp : p.finish.session.Listening := Passage.finish_listening (p := p) hl
  have hlq : q.finish.session.Listening := Passage.finish_listening (p := q) hlp
  obtain ⟨hengine, -, hmailbox, hnone⟩ := q.finish.next_drain hlq
  refine ⟨hengine, hmailbox, ?_⟩
  have htrace := trace_eq hl [.perform op, .perform op', .perform .drain]
  have hrow : (now.history [.perform op, .perform op', .perform .drain]).flatMap Passage.exchanges =
      p.exchanges ++ (q.exchanges ++
        ((⟨q.finish, .perform .drain⟩ : Passage H).exchanges ++ [])) := rfl
  rw [hrow, hnone, List.append_nil, List.append_nil, ← List.append_assoc] at htrace
  exact htrace

/-- **Both orders**, from any situation in which no source has a number that has not been given out. -/
theorem Situation.orders_upToNumbers {nodes : SourceId → SourceId → Node → Node → Prop}
    {now : Situation H} (hl : now.session.Listening) (hs : now.engine.roster.Sound)
    (hX : ∀ x ∈ exchangesOf now.session.chronicle, ∀ id, x.call.source? = some id →
      id.number < now.engine.supply.next)
    (hH : H.AnswersBySource nodes now.session.host now.engine.supply.next) (request : EffectRequest)
    {m : Operation} (hm : m.isMusical = true) :
    let s : Operation := .playEffect request
    let σ := swapped now.settled s m
    let first : Passage H := ⟨now, .perform s⟩
    let second : Passage H := ⟨now, .perform m⟩
    Option.Rel (upToNumbers nodes σ).Answers first.answer
        (Passage.mk second.finish (.perform s)).answer ∧
      Option.Rel (upToNumbers nodes σ).Answers (Passage.mk first.finish (.perform m)).answer
        second.answer ∧
      (now.after [.perform s, .perform m, .perform .drain]).UpToNumbers nodes σ
        (now.after [.perform m, .perform s, .perform .drain]) := by
  intro s σ first second
  have hwithin {D : SourceId → Prop} : (exchanging nodes σ D).Within (upToNumbers nodes σ) :=
    exchanging_within fun _ _ => trivial
  obtain ⟨d, d', N, N', hd, heffect⟩ :=
    effect_mirrors hl hs hH request (drains_of_isMusical hm)
  obtain ⟨dm, dm', Nm, Nm', hdm, hmusical⟩ := music_mirrors hl hs hH request hm
  obtain ⟨hengine, hmailbox, htrace⟩ := now.settles hl s m
  obtain ⟨hengine', hmailbox', htrace'⟩ := now.settles hl m s
  have he := settled_sound hs
  refine ⟨hwithin.answers heffect.answer, hwithin.answers hmusical.answer, ?_, fun id => ?_, hmailbox,
    hmailbox'⟩
  -- the engines at the end are the settled one with both changes, in either order
  · have hleft : (now.after [.perform s, .perform m, .perform .drain]).engine =
        heeded ((heeded (now.settled.changed d) N).changed dm) Nm := by
      rw [hengine, ← heffect.left]
      exact hmusical.left
    have hright : (now.after [.perform m, .perform s, .perform .drain]).engine =
        heeded ((heeded (now.settled.changed dm') Nm').changed d') N' := by
      rw [hengine', ← hmusical.right]
      exact heffect.right
    rw [hleft, hright]
    exact changes_exchanged he hd hdm heffect.changes hmusical.changes heffect.notices
      hmusical.notices
  · have hlp : first.finish.session.Listening := Passage.finish_listening (p := first) hl
    have hlq : second.finish.session.Listening := Passage.finish_listening (p := second) hl
    have hX' : ∀ x ∈ exchangesOf now.session.chronicle, ∀ id, x.call.source? = some id →
      id.number < now.settled.supply.next := hX
    rw [htrace, htrace']
    exact histories_exchanged he hX' heffect.exchanges hmusical.exchanges
      ⟨Passage.head (p := first) hl hs,
        Passage.head (p := ⟨first.finish, .perform m⟩) hlp (sound_finish (p := first) hl hs),
        Passage.head (p := ⟨second.finish, .perform s⟩) hlq (sound_finish (p := second) hl hs),
        Passage.head (p := second) hl hs⟩ id

/-- The sources that are asked for in two passages are exchanged, if there is one in each. -/
def exchanged (X Y : List Exchange) : Equiv.Perm SourceId :=
  match asked X, asked Y with
  | [i], [j] => Equiv.swap i j
  | _, _ => Equiv.refl SourceId

/-- Which sources a passage asks for. -/
theorem Passage.asked_eq {p : Passage H} (hl : p.start.session.Listening)
    (hs : p.start.engine.roster.Sound) {op : Operation} (h : p.step = .perform op)
    (hd : drains op = true) :
    asked p.exchanges =
      numbered p.start.settled.supply.next (p.start.settled.asks op).toNat := by
  obtain ⟨k, hk, hasked⟩ := (Passage.moves hl hs).asked
  obtain ⟨-, -, -, hnext⟩ := Passage.frame hl h hd
  have hsame : p.start.settled.supply.next + k =
      p.start.settled.supply.next + (p.start.settled.asks op).toNat := hk.symm.trans hnext
  rw [← Nat.add_left_cancel hsame]
  exact hasked

theorem exchanged_eq {now : Situation H} (hl : now.session.Listening)
    (hs : now.engine.roster.Sound) (request : EffectRequest) {m : Operation} (hd : drains m = true) :
    let first : Passage H := ⟨now, .perform (.playEffect request)⟩
    exchanged first.exchanges (Passage.mk first.finish (.perform m)).exchanges =
      swapped now.settled (.playEffect request) m := by
  intro first
  obtain ⟨hsettings, -, -, hnext⟩ := Passage.frame (p := first) hl rfl rfl
  have hasks : first.finish.settled.asks m = now.settled.asks m :=
    Engine.asks_congr hsettings (effect_music hl request) m
  have hasked : asked first.exchanges =
      numbered now.settled.supply.next (now.settled.asks (.playEffect request)).toNat :=
    Passage.asked_eq (p := first) hl hs rfl rfl
  have hasked' : asked (Passage.mk first.finish (.perform m)).exchanges =
      numbered (now.settled.supply.next + (now.settled.asks (.playEffect request)).toNat)
        (now.settled.asks m).toNat := by
    rw [← hasks, ← hnext]
    exact Passage.asked_eq (p := ⟨first.finish, .perform m⟩)
      (Passage.finish_listening (p := first) hl) (sound_finish (p := first) hl hs) rfl hd
  unfold exchanged swapped
  rw [hasked, hasked']
  cases now.settled.asks (.playEffect request) <;> cases now.settled.asks m <;> rfl

/-- **Effects and music commute.**  Let a host answer by source from some point of a run on.  Then it
makes no difference whether an effect is played first and then something is done to the music, or the
other way round: after the next drain the engines are the same, and so are the answers of both
operations, and all that each source was told and has answered -- up to an exchange of the two numbers,
if both operations ask for a source. -/
theorem effects_and_music_commute {nodes : SourceId → SourceId → Node → Node → Prop}
    (settings : Settings) (host : H.State) (steps : List (Step H)) (request : EffectRequest)
    {m : Operation} (hm : m.isMusical = true) :
    let now : Situation H := (Situation.opening settings host).after steps
    let s : Operation := .playEffect request
    let effectFirst : Passage H := ⟨now, .perform s⟩
    let musicSecond : Passage H := ⟨effectFirst.finish, .perform m⟩
    let musicFirst : Passage H := ⟨now, .perform m⟩
    let effectSecond : Passage H := ⟨musicFirst.finish, .perform s⟩
    let σ := exchanged effectFirst.exchanges musicSecond.exchanges
    H.AnswersBySource nodes now.session.host now.engine.supply.next →
      Option.Rel (upToNumbers nodes σ).Answers effectFirst.answer effectSecond.answer ∧
      Option.Rel (upToNumbers nodes σ).Answers musicSecond.answer musicFirst.answer ∧
      (now.after [.perform s, .perform m, .perform .drain]).UpToNumbers nodes σ
        (now.after [.perform m, .perform s, .perform .drain]) := by
  intro now s effectFirst musicSecond musicFirst effectSecond σ hH
  have hl : now.session.Listening := after_listening (opening_listening settings host) steps
  have hs : now.engine.roster.Sound := after_sound settings host steps
  have hσ : σ = swapped now.settled s m := exchanged_eq hl hs request (drains_of_isMusical hm)
  have hX := (trace_moves settings host steps).source_lt Roster.opening_sound
  rw [hσ]
  exact Situation.orders_upToNumbers hl hs hX hH request hm

/-- On a stage where sounds end as soon as they start, and with a track in the slot: the effect and the
new track exchange the numbers two and three, and after the drain no effect is tracked in either order. -/
theorem effects_and_music_commute_stage :
    let steps : List (Step Stage.host) := [.perform (.playMusic { name := "march" })]
    let host : Stage.host.State := { script := { endOnPlay := true } }
    let now : Situation Stage.host := (Situation.opening .standard host).after steps
    let s : Operation := .playEffect { name := "chime" }
    let m : Operation := .playMusic { name := "waltz" }
    let effectFirst : Passage Stage.host := ⟨now, .perform s⟩
    let musicFirst : Passage Stage.host := ⟨now, .perform m⟩
    let left := now.after [.perform s, .perform m, .perform .drain]
    let right := now.after [.perform m, .perform s, .perform .drain]
    effectFirst.answer = some (.effect (.played ⟨2⟩ true .started)) ∧
      musicFirst.answer = some (.music (.started ⟨2⟩ true .started)) ∧
      effectFirst.finish.engine.effects.length = 1 ∧ left.engine.effects = [] ∧
      left.UpToNumbers Stage.Renamed (Equiv.swap ⟨2⟩ ⟨3⟩) right := by
  intro steps host now s m effectFirst musicFirst left right
  have hfirst : effectFirst.answer = some (.effect (.played ⟨2⟩ true .started)) := by decide +kernel
  have hmusic : musicFirst.answer = some (.music (.started ⟨2⟩ true .started)) := by decide +kernel
  have htracked : effectFirst.finish.engine.effects.length = 1 := by decide +kernel
  have hleft : left.engine.effects = [] := by decide +kernel
  have hpauses : (Stage.State.script now.session.host).pauseFails = [] := by decide +kernel
  have hseeks : (Stage.State.script now.session.host).seekFails = [] := by decide +kernel
  have hmedia : ∀ a ∈ Stage.State.media now.session.host,
      a.source.number < now.engine.supply.next := by decide +kernel
  have hswap : exchanged effectFirst.exchanges (Passage.mk effectFirst.finish (.perform m)).exchanges =
      Equiv.swap ⟨2⟩ ⟨3⟩ := by
    have hasked : asked effectFirst.exchanges = [⟨2⟩] := by decide +kernel
    have hasked' : asked (Passage.mk effectFirst.finish (.perform m)).exchanges = [⟨3⟩] := by
      decide +kernel
    unfold exchanged
    rw [hasked, hasked']
  obtain ⟨-, -, hcommute⟩ := effects_and_music_commute (H := Stage.host) .standard host steps
    { name := "chime" } (m := m) rfl (Stage.answersBySource _ hpauses hseeks hmedia)
  rw [hswap] at hcommute
  exact ⟨hfirst, hmusic, htracked, hleft, hcommute⟩

end SoundEngine
