import Mathlib.Data.List.Nodup
import SoundEngine.Proofs.Roster
import SoundEngine.Simulation.Stage

/-!
# Every source has a number of its own

An effect is found again by the number of its source, and so is the track in the slot.  Both owners
draw their numbers from one counter, and an attempt that fails uses one up as well.  Were a number
ever given out twice, an event of an old source would end a new one, and a new effect would be taken
for one that is tracked already, with the source of the old one kept.

* §1 reads the sources that were asked for off a list of exchanges, and says which ones those are:
  the next number, then the one after it, with no gap (`Moves.asked`).
* §2 is what that means for a request for an effect.  Its source is none of those that are held, so
  it is put behind the tracked effects, and all calls of the passage are about it.
* §3 counts: the sources that were built are the requests that were answered with one.  An attempt that
  succeeds moves both counters and one that fails only the first, so the second stays behind it; for
  fewer than `2 ^ 64 - 1` attempts both fit in 64 bits, and an engine that counts in such words has the
  same numbers.
-/

namespace SoundEngine

variable {H : Host}

/-! ## 1. Which sources are asked for -/

/-- The source that the host is asked to build. -/
def Exchange.asked? (x : Exchange) : Option SourceId :=
  match x.call with
  | .createSource id _ _ => some id
  | _ => none

/-- The sources that the host is asked to build, in the order of the attempts, whether or not they
succeed. -/
def asked (X : List Exchange) : List SourceId := X.filterMap Exchange.asked?

/-- The sources of `k` numbers in a row, from `n` on. -/
def numbered (n k : Nat) : List SourceId := (List.range' n k).map SourceId.mk

theorem numbered_append (n k l : Nat) :
    numbered n k ++ numbered (n + k) l = numbered n (k + l) := by
  unfold numbered
  rw [← List.map_append, List.range'_append_1]

theorem nodup_numbered (n k : Nat) : (numbered n k).Nodup := by
  refine List.Nodup.map (fun m m' h => ?_) List.nodup_range'
  exact SourceId.mk.inj h

@[simp] theorem length_numbered (n k : Nat) : (numbered n k).length = k := by
  simp [numbered]

theorem asked_append (X Y : List Exchange) : asked (X ++ Y) = asked X ++ asked Y :=
  List.filterMap_append

/-- An attempt is put on file, so nothing is lost by looking at the files only. -/
theorem asked_telling (X : List Exchange) : asked (telling X) = asked X := by
  unfold asked telling
  rw [List.filterMap_filter]
  congr 1
  funext x
  obtain ⟨call, reply⟩ := x
  cases call <;> rfl

theorem asked_of_isGeneral {X : List Exchange} (h : ∀ x ∈ X, x.call.isGeneral = true) :
    asked X = [] := by
  refine List.filterMap_eq_nil_iff.mpr fun x hx => ?_
  have hg := h x hx
  obtain ⟨call, reply⟩ := x
  cases call <;> first | rfl | exact absurd hg Bool.false_ne_true

section Files

variable {id : SourceId} {D : List Exchange}

theorem Opening.asked {levels : List Exchange} (h : Opening id levels D)
    (hlevels : SoundEngine.asked levels = []) : SoundEngine.asked D = [id] := by
  cases h with
  | @opened address mode attached A F hA hF reply =>
    have hA' : SoundEngine.asked A = [] := by cases hA <;> rfl
    have hF' : SoundEngine.asked F = [] := by cases hF <;> rfl
    change id :: SoundEngine.asked (levels ++ (A ++ (F ++ [⟨.play id, reply⟩]))) = [id]
    rw [asked_append, asked_append, asked_append, hlevels, hA', hF']
    rfl

theorem Resumption.asked (h : Resumption id D) : SoundEngine.asked D = [] := by
  cases h <;> rfl

theorem Halt.asked (h : Halt id D) : SoundEngine.asked D = [] := by
  cases h <;> rfl

end Files

section Moves

variable {made : SourceId → Operation → Prop} {r r' : Roster} {B X : List Exchange}

/-- **A move asks for the next source or for none**, and gives out its number if it does. -/
theorem Move.asked (h : Move made r B r') :
    ∃ k, r'.next = r.next + k ∧ SoundEngine.asked B = numbered r.next k := by
  cases h with
  | general hB => exact ⟨0, rfl, asked_of_isGeneral hB⟩
  | forgets => exact ⟨0, rfl, rfl⟩
  | refused => exact ⟨1, rfl, rfl⟩
  | opensEffect _ _ h => exact ⟨1, rfl, (asked_telling B).symm.trans (h.asked rfl)⟩
  | opensMusic _ _ _ h => exact ⟨1, rfl, (asked_telling B).symm.trans (h.asked rfl)⟩
  | resumesMusic _ _ h => exact ⟨0, rfl, (asked_telling B).symm.trans h.asked⟩
  | haltsMusic _ _ h => exact ⟨0, rfl, (asked_telling B).symm.trans h.asked⟩
  | haltsEffect _ _ h => exact ⟨0, rfl, (asked_telling B).symm.trans h.asked⟩

/-- **Numbers are given out in order and without a gap.** -/
theorem Moves.asked (h : Moves made r X r') :
    ∃ k, r'.next = r.next + k ∧ SoundEngine.asked X = numbered r.next k := by
  induction h with
  | refl => exact ⟨0, rfl, rfl⟩
  | @head r r₁ r' B X hB _ ih =>
    obtain ⟨k, hk, hasked⟩ := hB.asked
    obtain ⟨l, hl, hasked'⟩ := ih
    refine ⟨k + l, by omega, ?_⟩
    rw [asked_append, hasked, hasked', hk, numbered_append]

end Moves

/-- The numbers of a run: from the first on, one for each attempt. -/
theorem asked_trace (settings : Settings) (host : H.State) (steps : List (Step H)) :
    let now := (Situation.opening settings host : Situation H).after steps
    let attempts := asked (exchangesOf now.session.chronicle)
    attempts = numbered 1 attempts.length ∧ now.engine.supply.next = attempts.length + 1 := by
  intro now attempts
  obtain ⟨k, hnext, hasked⟩ := (trace_moves settings host steps).asked
  have hlength : attempts.length = k := (congrArg List.length hasked).trans (length_numbered 1 k)
  rw [hlength]
  exact ⟨hasked, hnext.trans (Nat.add_comm 1 k)⟩

/-! ## 2. What is held, and what comes new -/

/-- The sources that an engine holds: those of the tracked effects, and behind them that of the track, if
there is one. -/
def Engine.held (e : Engine) : List SourceId :=
  e.effects.map ActiveEffect.source ++ (e.music.map Track.source).toList

theorem Engine.mem_held {e : Engine} {id : SourceId} :
    id ∈ e.held ↔ id ∈ e.roster.effects ∨ e.roster.music = some id := by
  unfold held
  rw [List.mem_append, Option.mem_toList]
  rfl

/-- What is held is held once. -/
theorem nodup_held {e : Engine} (hs : e.roster.Sound) : e.held.Nodup := by
  have hmusic : (e.music.map Track.source).toList.Nodup := by
    cases e.music <;> simp
  refine List.Nodup.append hs.nodup hmusic fun id heffect hmusic => ?_
  exact hs.apart id (Option.mem_toList.mp hmusic) heffect

theorem held_lt {e : Engine} (hs : e.roster.Sound) :
    ∀ id ∈ e.held, id.number < e.supply.next := by
  intro id hid
  rcases Engine.mem_held.mp hid with h | h
  · exact hs.effects_lt id h
  · exact hs.music_lt id h

/-- In the passage an effect is added for the request, with this source.  The source has the next
number and is not tracked, so that it comes behind all that are; the calls of the passage are about
no other source; and they build it, set its levels, route it and ask it to play. -/
structure Passage.Adds (p : Passage H) (request : EffectRequest) (id : SourceId) : Prop where
  next : id = p.start.engine.supply.nextId
  new : id ∉ p.start.engine.held
  added : ∃ route, p.finish.engine.effects = p.unfinished ++ [⟨id, route⟩]
  about : Block (some id) p.exchanges
  opened : Opening id (request.levels id) (telling p.exchanges)

namespace Conduct

/-- An effect that was played is the one that was built for the request. -/
theorem playingEffect_adds {effects effects' : Effects} {supply supply' : Supply} {m : Mixer}
    {page : Option Url} {base : String} {request : EffectRequest} {id : SourceId} {attached : Bool}
    {start : Start} {L : List Entry}
    (h : PlayingEffect effects supply m page base request
      (.played id attached start, supply', effects') L)
    (hfresh : effects.tracks supply.nextId = false) :
    id = supply.nextId ∧ (∃ route, effects' = effects ++ [⟨id, route⟩]) ∧
      Block (some id) (exchangesOf L) ∧
      Opening id (request.levels id) (telling (exchangesOf L)) := by
  cases h with
  | @played _ _ _ _ routing _ _ _ _ hL hR hS =>
    obtain ⟨rfl, -, -⟩ := creating_ok hL
    obtain ⟨habout, hopened⟩ := effect_opened hL hR hS _
    refine ⟨rfl, ⟨routing.route?, ?_⟩, habout, hopened⟩
    unfold Effects.insert
    rw [if_neg (Bool.eq_false_iff.mp hfresh)]

end Conduct

/-- **A new effect is new.** -/
theorem Passage.adds {p : Passage H} (hl : p.start.session.Listening)
    (hs : p.start.engine.roster.Sound) {request : EffectRequest} {id : SourceId}
    {attached : Bool} {start : Start} (h : p.step = .perform (.playEffect request))
    (ha : p.answer = some (.effect (.played id attached start))) : p.Adds request id := by
  obtain ⟨answer, L, ha', hX, hA⟩ := acted hl h
  obtain rfl : answer = .effect (.played id attached start) := Option.some.inj (ha'.symm.trans ha)
  have hrest : (Conduct.heeded p.start.engine p.consumed).effects = p.unfinished :=
    heeding_eq_filter _ _
  have hfresh : p.unfinished.tracks p.start.engine.supply.nextId = false := by
    refine Bool.eq_false_iff.mpr fun ht => hs.fresh_not_mem ?_
    exact Effects.tracks_iff.mp (tracks_unfinished.mp ht).1
  have hnew : p.start.engine.supply.nextId ∉ p.start.engine.held :=
    fun hmem => Nat.lt_irrefl _ (held_lt hs _ hmem)
  have hconduct : id = p.start.engine.supply.nextId ∧
      (∃ route, p.finish.engine.effects = p.unfinished ++ [⟨id, route⟩]) ∧
      Block (some id) (exchangesOf L) ∧
      Opening id (request.levels id) (telling (exchangesOf L)) := by
    generalize p.finish.engine = e' at hA ⊢
    cases hA with
    | playEffect hL =>
      rw [hrest] at hL
      exact Conduct.playingEffect_adds hL hfresh
  obtain ⟨rfl, hadded, habout, hopened⟩ := hconduct
  rw [← hX] at habout hopened
  exact ⟨rfl, hnew, hadded, habout, hopened⟩

/-! ## 3. How many have been built -/

/-- The answer tells of a source that was built: an effect was played, or a track was started.  Whether
the source was attached, and whether it plays, makes no difference. -/
def Answer.delivers : Answer → Bool
  | .effect (.played _ _ _) => true
  | .music (.started _ _ _) => true
  | _ => false

/-- From the supply `s` to a later one `s'`, this many sources have been built.  As many more are counted,
and at least as many more numbers have been given out: an attempt that fails uses one up as well, and is
not counted. -/
structure Supply.Grows (built : Nat) (s s' : Supply) : Prop where
  created : s'.created = s.created + built
  next : s.next + built ≤ s'.next

namespace Supply.Grows

variable {m n : Nat} {s s' s'' : Supply}

theorem refl (s : Supply) : Grows 0 s s := ⟨rfl, Nat.le_refl _⟩

theorem trans (h : Grows m s s') (h' : Grows n s' s'') : Grows (m + n) s s'' := by
  obtain ⟨hcreated, hnext⟩ := h
  obtain ⟨hcreated', hnext'⟩ := h'
  exact ⟨by omega, by omega⟩

theorem spend (s : Supply) : Grows 0 s s.spend := ⟨rfl, Nat.le_succ _⟩

theorem advance (s : Supply) : Grows 1 s s.advance := ⟨rfl, Nat.le_refl _⟩

end Supply.Grows

namespace Conduct

theorem playingEffect_grows {effects effects' : Effects} {supply supply' : Supply} {m : Mixer}
    {page : Option Url} {base : String} {request : EffectRequest} {outcome : EffectOutcome}
    {L : List Entry}
    (h : PlayingEffect effects supply m page base request (outcome, supply', effects') L) :
    Supply.Grows ([Answer.effect outcome].countP Answer.delivers) supply supply' := by
  cases h with
  | skipped => exact .refl supply
  | failed _ hL =>
    rw [(creating_error hL).1]
    exact .spend supply
  | played _ hL =>
    rw [(creating_ok hL).2.1]
    exact .advance supply

theorem beginning_grows {supply supply' : Supply} {m : Mixer} {page : Option Url}
    {address : String} {request : MusicRequest} {outcome : MusicOutcome} {music : Music}
    {K : List Entry} (h : Beginning supply m page address request (outcome, supply', music) K) :
    Supply.Grows ([Answer.music outcome].countP Answer.delivers) supply supply' := by
  cases h with
  | failed hL =>
    rw [(creating_error hL).1]
    exact .spend supply
  | started hL =>
    rw [(creating_ok hL).2.1]
    exact .advance supply

theorem playingMusic_grows {music music' : Music} {supply supply' : Supply} {m : Mixer}
    {page : Option Url} {base : String} {request : MusicRequest} {outcome : MusicOutcome}
    {L : List Entry}
    (h : PlayingMusic music supply m page base request (outcome, supply', music') L) :
    Supply.Grows ([Answer.music outcome].countP Answer.delivers) supply supply' := by
  cases h with
  | skipped => exact .refl supply
  | answered _ _ _ hL => cases hL <;> exact .refl supply
  | replaced _ _ _ hK => exact beginning_grows hK

theorem acts_grows {drained : List Notice} {e e' : Engine} {op : Operation} {answer : Answer}
    {L : List Entry} (h : Acts drained e op (answer, e') L) :
    Supply.Grows ([answer].countP Answer.delivers) e.supply e'.supply := by
  cases h with
  | playEffect hL => exact playingEffect_grows hL
  | playMusic hL => exact playingMusic_grows hL
  | _ => exact .refl e.supply

end Conduct

/-- **One step**: what was built is what is answered with. -/
theorem Passage.grows {p : Passage H} (hl : p.start.session.Listening) :
    Supply.Grows (p.answer.toList.countP Answer.delivers) p.start.engine.supply
      p.finish.engine.supply := by
  cases hstep : p.step with
  | meanwhile change notices =>
    rw [(rested hstep).1, (rested hstep).2.1]
    exact .refl _
  | perform op =>
    obtain ⟨answer, L, ha, -, hA⟩ := acted hl hstep
    have hgrows := Conduct.acts_grows hA
    rw [ha]
    exact hgrows

theorem grows_after {now : Situation H} (hl : now.session.Listening) (steps : List (Step H)) :
    Supply.Grows (((now.history steps).filterMap Passage.answer).countP Answer.delivers)
      now.engine.supply (now.after steps).engine.supply := by
  induction steps generalizing now with
  | nil => exact .refl _
  | cons step rest ih =>
    let p : Passage H := ⟨now, step⟩
    have hrest := ih (Passage.finish_listening (p := p) hl)
    have hcons : (now.history (step :: rest)).filterMap Passage.answer =
        p.answer.toList ++ (p.finish.history rest).filterMap Passage.answer := by
      change (p :: p.finish.history rest).filterMap Passage.answer = _
      rw [List.filterMap_cons]
      cases p.answer <;> rfl
    rw [hcons, List.countP_append]
    exact (Passage.grows (p := p) hl).trans hrest

/-- **What the counters hold** after a run: the second one counts the sources that were built, and stays
behind the first. -/
theorem supply_after (settings : Settings) (host : H.State) (steps : List (Step H)) :
    let start : Situation H := .opening settings host
    let supply := (start.after steps).engine.supply
    supply.created = ((start.history steps).filterMap Passage.answer).countP Answer.delivers ∧
      supply.created < supply.next := by
  intro start supply
  have hbegin : start.engine.supply = {} := by
    obtain ⟨page, mixer, he⟩ := opening_engine settings host
    rw [he]
  obtain ⟨hcreated, hnext⟩ := grows_after (opening_listening settings host) steps
  change start.engine.supply.next + _ ≤ supply.next at hnext
  change supply.created = start.engine.supply.created + _ at hcreated
  rw [hbegin, Nat.zero_add] at hcreated
  rw [hbegin, ← hcreated, Nat.add_comm] at hnext
  exact ⟨hcreated, hnext⟩

/-! ## 4. All runs -/

/-- **Every source has a number of its own.**  Over every host, from every configuration and through
every run:

* the sources that the host is asked to build have the numbers from one on, in the order of the
  attempts, so none of them is asked for twice; and the next number is one more than the attempts so
  far;
* for fewer than `2 ^ 64 - 1` attempts, that number and the count of the sources fit in 64 bits;
* no source is held twice, as an effect or as the track, and all that are held have had their
  numbers;
* an effect that is played is added as a new one, and its source is the one that is built, routed
  and started;
* as many sources have been built as requests have been answered with one. -/
theorem sources_numbered (settings : Settings) (host : H.State) (steps : List (Step H)) :
    let start : Situation H := .opening settings host
    let now := start.after steps
    let history := start.history steps
    let attempts := asked (exchangesOf now.session.chronicle)
    (attempts = numbered 1 attempts.length ∧ attempts.Nodup ∧
      now.engine.supply.next = attempts.length + 1) ∧
    (attempts.length < UInt64.size - 1 →
      now.engine.supply.next < UInt64.size ∧ now.engine.supply.created < UInt64.size) ∧
    (now.engine.held.Nodup ∧ ∀ id ∈ now.engine.held, id.number < now.engine.supply.next) ∧
    (∀ p ∈ history, ∀ request id attached begun, p.step = .perform (.playEffect request) →
      p.answer = some (.effect (.played id attached begun)) → p.Adds request id) ∧
    now.engine.supply.created = (history.filterMap Passage.answer).countP Answer.delivers := by
  intro start now history attempts
  have hl : start.session.Listening := opening_listening settings host
  have hs : start.engine.roster.Sound := after_sound settings host []
  have hsound : now.engine.roster.Sound := after_sound settings host steps
  obtain ⟨hasked, hnext⟩ := asked_trace settings host steps
  have hnodup : attempts.Nodup := by
    change attempts = numbered 1 attempts.length at hasked
    rw [hasked]
    exact nodup_numbered _ _
  obtain ⟨hcreated, hbehind⟩ := supply_after settings host steps
  refine ⟨⟨hasked, hnodup, hnext⟩, fun hfew => ?_, ⟨nodup_held hsound, held_lt hsound⟩, ?_, hcreated⟩
  · have hfits : now.engine.supply.next < UInt64.size := by
      rw [hnext]
      exact Nat.add_lt_of_lt_sub hfew
    exact ⟨hfits, Nat.lt_trans hbehind hfits⟩
  · intro p hp request id attached begun
    exact Passage.adds (listening_of_mem_history hl hp) (sound_of_mem_history hl hs hp)

/-- On a stage, a track has the first number and an effect the second. -/
theorem sources_numbered_stage :
    let steps : List (Step Stage.host) :=
      [.perform (.playMusic { name := "prelude" }), .perform (.playEffect { name := "chime" })]
    let start : Situation Stage.host := .opening .standard { script := {} }
    let p : Passage Stage.host :=
      ⟨start.next (.perform (.playMusic { name := "prelude" })),
        .perform (.playEffect { name := "chime" })⟩
    p ∈ start.history steps ∧ p.answer = some (.effect (.played ⟨2⟩ true .started)) ∧
    p.Adds { name := "chime" } ⟨2⟩ ∧
    (start.after steps).engine.supply.next < UInt64.size ∧
    (start.after steps).engine.supply.created = 2 := by
  intro steps start p
  have hp : p ∈ start.history steps := List.mem_cons_of_mem _ List.mem_cons_self
  have hanswer : p.answer = some (.effect (.played ⟨2⟩ true .started)) := by decide +kernel
  have hcount : (asked (exchangesOf (start.after steps).session.chronicle)).length = 2 := by
    decide +kernel
  obtain ⟨-, hfits, -, hadds, -⟩ := sources_numbered (H := Stage.host) .standard { script := {} } steps
  exact ⟨hp, hanswer, hadds p hp _ _ _ _ rfl hanswer,
    (hfits (by rw [hcount]; decide)).1, by decide +kernel⟩

end SoundEngine
