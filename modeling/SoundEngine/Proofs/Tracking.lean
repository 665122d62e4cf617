import Mathlib.Data.List.Induction
import SoundEngine.Proofs.History

/-!
# The tracked effects are the unfinished ones

Whether an effect is tracked is a question about the state of an engine.  This module answers it by
the history of the run alone: an effect is tracked if and only if it was played, and since then
neither has a drain taken a final event of its source out of the mailbox nor has everything been
stopped (`tracked_iff_unfinished`).

* §1 says which events are final, and that the events of a drain act on the tracked effects as a
  SET: what they leave is a filter (`heeding_eq_filter`), so neither their order nor their number counts.
* §2 reads off a passage what the statement speaks of, and states what one passage does.
* §3 proves that, and §4 follows it through a run, along with the law of the mailbox: every event is
  taken exactly once, in the order of arrival, and none before a later operation drains.
-/

namespace SoundEngine

variable {H : Host}

/-! ## 1. Final events -/

/-- The source will not play on by itself: it ended, or it was paused at its end, or it was paused
at its very beginning, where either zero will do but not-a-number will not. -/
inductive SourceEvent.Final : SourceEvent → Prop
  | ended : Final .ended
  | atEnd (position : Double) : Final (.paused position true)
  | atBeginning (negative atEnd : Bool) : Final (.paused (.number negative 0) atEnd)

theorem SourceEvent.isFinal_iff {event : SourceEvent} : event.isFinal = true ↔ event.Final := by
  cases event with
  | ended => exact ⟨fun _ => .ended, fun _ => rfl⟩
  | paused position atEnd =>
    change (atEnd || position.equal .zero) = true ↔ _
    rw [Bool.or_eq_true, Binary.equal_zero_iff]
    constructor
    · rintro (rfl | ⟨negative, rfl⟩)
      · exact .atEnd position
      · exact .atBeginning negative atEnd
    · intro h
      cases h with
      | atEnd => exact .inl rfl
      | atBeginning negative => exact .inr ⟨negative, rfl⟩

instance : DecidablePred SourceEvent.Final := fun _ => decidable_of_iff _ SourceEvent.isFinal_iff

/-- One of the events is final, and of this source. -/
def Over (notices : List Notice) (id : SourceId) : Prop :=
  ∃ n ∈ notices, n.source = id ∧ n.event.Final

instance (notices : List Notice) (id : SourceId) : Decidable (Over notices id) :=
  inferInstanceAs (Decidable (∃ n ∈ notices, n.source = id ∧ n.event.Final))

theorem over_nil (id : SourceId) : ¬ Over [] id := by
  rintro ⟨n, hn, -⟩
  exact List.not_mem_nil hn

theorem over_cons {n : Notice} {ns : List Notice} {id : SourceId} :
    Over (n :: ns) id ↔ (n.source = id ∧ n.event.Final) ∨ Over ns id := by
  constructor
  · rintro ⟨m, hm, h⟩
    rcases List.mem_cons.mp hm with rfl | hm
    · exact .inl h
    · exact .inr ⟨m, hm, h⟩
  · rintro (h | ⟨m, hm, h⟩)
    · exact ⟨n, List.mem_cons_self, h⟩
    · exact ⟨m, List.mem_cons_of_mem n hm, h⟩

/-- An event that is not final, or that is of no tracked effect, leaves all of them. -/
theorem Effects.apply_eq_filter (effects : Effects) (n : Notice) :
    effects.apply n = effects.filter fun e => decide (¬ (n.source = e.source ∧ n.event.Final)) := by
  unfold Effects.apply Effects.endsWith
  by_cases hf : n.event.Final
  · rw [SourceEvent.isFinal_iff.mpr hf, Bool.true_and]
    by_cases ht : effects.tracks n.source = true
    · rw [if_pos ht]
      refine List.filter_congr fun e _ => ?_
      rw [Bool.eq_iff_iff, bne_iff_ne, decide_eq_true_iff, and_iff_left hf]
      exact not_congr eq_comm
    · rw [if_neg ht]
      refine (List.filter_eq_self.mpr fun e he => ?_).symm
      refine decide_eq_true ?_
      rintro ⟨h, -⟩
      exact ht (Effects.tracks_iff.mpr (h ▸ List.mem_map_of_mem he))
  · rw [Bool.eq_false_iff.mpr fun h => hf (SourceEvent.isFinal_iff.mp h), Bool.false_and,
      if_neg Bool.false_ne_true]
    refine (List.filter_eq_self.mpr fun e _ => ?_).symm
    exact decide_eq_true fun h => hf h.2

/-- **Events act as a set.**  What some events leave of the tracked effects is what none of them is
the end of. -/
theorem heeding_eq_filter (effects : Effects) (notices : List Notice) :
    Conduct.heeding effects notices =
      effects.filter fun e => decide (¬ Over notices e.source) := by
  induction notices generalizing effects with
  | nil => exact (List.filter_eq_self.mpr fun e _ => decide_eq_true (over_nil e.source)).symm
  | cons n ns ih =>
    have hcons : Conduct.heeding effects (n :: ns) = Conduct.heeding (effects.apply n) ns := rfl
    rw [hcons, ih, Effects.apply_eq_filter, List.filter_filter]
    refine List.filter_congr fun e _ => ?_
    rw [← Bool.decide_and, decide_eq_decide, over_cons, not_or]
    exact and_comm

/-! ## 2. What a passage does -/

namespace Passage

/-- The passage has played an effect with this source, whether or not it was attached, and whether
or not it started. -/
def PlayedEffect (p : Passage H) (id : SourceId) : Prop :=
  ∃ attached start, p.answer = some (.effect (.played id attached start))

/-- The passage has taken a final event of this source out of the mailbox.  An event that still waits
finishes nothing. -/
def Finishes (p : Passage H) (id : SourceId) : Prop := Over p.consumed id

instance (p : Passage H) (id : SourceId) : Decidable (p.Finishes id) :=
  inferInstanceAs (Decidable (Over p.consumed id))

/-- The passage has stopped everything. -/
def StopsAll (p : Passage H) : Prop := ∃ order, p.step = .perform (.stopAll order)

/-- The tracked effects that the passage goes on with, once it has drained: those that it was started
with, in their order, less those that an event has ended. -/
def unfinished (p : Passage H) : Effects :=
  p.start.engine.effects.filter fun e => decide (¬ p.Finishes e.source)

/-- What a passage does to the mailbox, and what it leaves of the tracked effects when it neither
plays one nor stops them all: so too if no source could be built for an effect. -/
structure TrackingLaw (p : Passage H) : Prop where
  drains : ∀ operation, p.step = .perform operation → Conduct.drains operation = true →
    p.consumed = p.start.session.mailbox.waiting
  leaves : (∀ operation, p.step = .perform operation → Conduct.drains operation = false) →
    p.consumed = []
  waits : p.finish.session.mailbox = .listening
    (p.start.session.mailbox.waiting.drop p.consumed.length ++ p.arrivals)
  counts : p.step = .perform .drain → p.answer = some (.drained p.consumed.length)
  keeps : (∀ id, ¬ p.PlayedEffect id) → ¬ p.StopsAll → p.finish.engine.effects = p.unfinished

end Passage

/-- Somewhere in the history an effect with this source was played, and after that passage none has
finished it or stopped everything. -/
def Unfinished (id : SourceId) (history : List (Passage H)) : Prop :=
  ∃ before p later, history = before ++ p :: later ∧ p.PlayedEffect id ∧
    ∀ q ∈ later, ¬ q.Finishes id ∧ ¬ q.StopsAll

/-! ## 3. One step -/

namespace Passage

open Conduct

theorem tracks_unfinished {p : Passage H} {id : SourceId} :
    p.unfinished.tracks id = true ↔
      p.start.engine.effects.tracks id = true ∧ ¬ p.Finishes id := by
  rw [Effects.tracks_iff, Effects.tracks_iff]
  constructor
  · intro h
    obtain ⟨e, he, rfl⟩ := List.mem_map.mp h
    obtain ⟨hm, hf⟩ := List.mem_filter.mp he
    exact ⟨List.mem_map_of_mem hm, of_decide_eq_true hf⟩
  · rintro ⟨h, hf⟩
    obtain ⟨e, he, rfl⟩ := List.mem_map.mp h
    exact List.mem_map_of_mem (List.mem_filter.mpr ⟨he, decide_eq_true hf⟩)

/-- **What becomes of the tracked effects.**  One is added, or all go, or what the drained events
leave stays. -/
theorem effects_finish {p : Passage H} (hl : p.start.session.Listening) :
    (∃ id route, p.PlayedEffect id ∧ (∀ i, p.PlayedEffect i → i = id) ∧ ¬ p.StopsAll ∧
      p.finish.engine.effects = p.unfinished.insert ⟨id, route⟩) ∨
    ((∀ id, ¬ p.PlayedEffect id) ∧ p.StopsAll ∧ p.finish.engine.effects = []) ∨
    ((∀ id, ¬ p.PlayedEffect id) ∧ ¬ p.StopsAll ∧ p.finish.engine.effects = p.unfinished) := by
  cases hstep : p.step with
  | meanwhile change notices =>
    have hc := consumed_rested hstep
    obtain ⟨ha, he, -⟩ := rested hstep
    refine .inr (.inr ⟨?_, ?_, ?_⟩)
    · rintro id ⟨attached, start, h⟩
      rw [ha] at h
      exact absurd h (by simp)
    · rintro ⟨order, h⟩
      rw [hstep] at h
      exact absurd h (by simp)
    · rw [he]
      refine (List.filter_eq_self.mpr fun e _ => decide_eq_true ?_).symm
      unfold Finishes
      rw [hc]
      exact over_nil e.source
  | perform operation =>
    obtain ⟨answer, L, ha, -, hA⟩ := acted hl hstep
    have hrest : (heeded p.start.engine p.consumed).effects = p.unfinished :=
      heeding_eq_filter _ _
    have hall : p.StopsAll ↔ ∃ order, operation = .stopAll order := by
      simp [StopsAll, hstep]
    have hplayed : ∀ id, p.PlayedEffect id ↔
        ∃ attached start, answer = .effect (.played id attached start) := by
      simp [PlayedEffect, ha]
    generalize p.finish.engine = e' at hA ⊢
    simp only [hall, hplayed]
    cases hA with
    | playEffect hL =>
      cases hL with
      | skipped => exact .inr (.inr ⟨by simp, by simp, hrest⟩)
      | failed => exact .inr (.inr ⟨by simp, by simp, hrest⟩)
      | @played _ _ id _ routing start _ _ _ hL hR hS =>
        refine .inl ⟨id, routing.route?, ⟨_, _, rfl⟩, ?_, by simp, ?_⟩
        · rintro i ⟨attached, start, h⟩
          simp only [Answer.effect.injEq, EffectOutcome.played.injEq] at h
          exact h.1.symm
        · rw [← hrest]
    | stopAll => exact .inr (.inl ⟨by simp, ⟨_, rfl⟩, rfl⟩)
    | _ => exact .inr (.inr ⟨by simp, by simp, hrest⟩)

/-- **One step.** -/
theorem tracks_finish {p : Passage H} (hl : p.start.session.Listening) (id : SourceId) :
    p.finish.engine.effects.tracks id = true ↔
      p.PlayedEffect id ∨
        (p.start.engine.effects.tracks id = true ∧ ¬ p.Finishes id ∧ ¬ p.StopsAll) := by
  rcases effects_finish hl with ⟨i, route, hp, honly, hs, he⟩ | ⟨hp, hs, he⟩ | ⟨hp, hs, he⟩
  · rw [he, Effects.tracks_insert, tracks_unfinished]
    constructor
    · rintro (rfl | ⟨ht, hf⟩)
      · exact .inl hp
      · exact .inr ⟨ht, hf, hs⟩
    · rintro (h | ⟨ht, hf, -⟩)
      · exact .inl (honly id h)
      · exact .inr ⟨ht, hf⟩
  · rw [he]
    constructor
    · exact fun h => absurd h Bool.false_ne_true
    · rintro (h | ⟨-, -, h⟩)
      · exact absurd h (hp id)
      · exact absurd hs h
  · rw [he, tracks_unfinished]
    constructor
    · rintro ⟨ht, hf⟩
      exact .inr ⟨ht, hf, hs⟩
    · rintro (h | ⟨ht, hf, -⟩)
      · exact absurd h (hp id)
      · exact ⟨ht, hf⟩

theorem trackingLaw {p : Passage H} (hl : p.start.session.Listening) : p.TrackingLaw where
  drains operation h hd := by
    unfold consumed
    rw [h]
    simp [Conduct.consumed, hd]
  leaves h := by
    unfold consumed
    cases hstep : p.step with
    | meanwhile => rfl
    | perform operation => simp [Conduct.consumed, h operation hstep]
  waits := waiting_finish hl
  counts h := by
    obtain ⟨answer, L, ha, -, hA⟩ := acted hl h
    rw [ha]
    generalize p.finish.engine = e' at hA
    cases hA
    rfl
  keeps hp hs := by
    rcases effects_finish hl with ⟨id, -, h, -⟩ | ⟨-, h, -⟩ | ⟨-, -, he⟩
    · exact absurd h (hp id)
    · exact absurd h hs
    · exact he

end Passage

/-- A step takes all events that wait, or none. -/
theorem Passage.consumed_append_drop (p : Passage H) :
    p.consumed ++ p.start.session.mailbox.waiting.drop p.consumed.length =
      p.start.session.mailbox.waiting := by
  have h : p.consumed = p.start.session.mailbox.waiting ∨ p.consumed = [] := by
    unfold Passage.consumed
    cases p.step with
    | meanwhile => exact .inr rfl
    | perform operation =>
      change Conduct.consumed operation p.start.session = _ ∨
        Conduct.consumed operation p.start.session = []
      unfold Conduct.consumed
      split
      · exact .inl rfl
      · exact .inr rfl
  rcases h with h | h
  · rw [h, List.drop_length, List.append_nil]
  · rw [h]
    rfl

/-! ## 4. All runs -/

theorem unfinished_nil (id : SourceId) : ¬ Unfinished id ([] : List (Passage H)) := by
  rintro ⟨before, p, later, h, -⟩
  exact absurd h (by simp)

/-- Only the last passage matters for what was unfinished before it. -/
theorem unfinished_snoc {id : SourceId} {history : List (Passage H)} {q : Passage H} :
    Unfinished id (history ++ [q]) ↔
      q.PlayedEffect id ∨ (Unfinished id history ∧ ¬ q.Finishes id ∧ ¬ q.StopsAll) := by
  constructor
  · rintro ⟨before, p, later, h, hp, hlater⟩
    rcases List.eq_nil_or_concat later with rfl | ⟨most, last, rfl⟩
    · obtain ⟨-, rfl⟩ := List.append_singleton_inj.mp h
      exact .inl hp
    · rw [List.concat_eq_append, ← List.cons_append, ← List.append_assoc] at h
      obtain ⟨rfl, rfl⟩ := List.append_singleton_inj.mp h
      refine .inr ⟨⟨before, p, most, rfl, hp, fun r hr => hlater r ?_⟩, hlater q ?_⟩
      · rw [List.concat_eq_append]
        exact List.mem_append_left _ hr
      · rw [List.concat_eq_append]
        exact List.mem_append_right _ (List.mem_singleton.mpr rfl)
  · rintro (hq | ⟨⟨before, p, later, rfl, hp, hlater⟩, hq⟩)
    · exact ⟨history, q, [], rfl, hq, fun r hr => absurd hr List.not_mem_nil⟩
    · refine ⟨before, p, later ++ [q], by simp, hp, fun r hr => ?_⟩
      rcases List.mem_append.mp hr with hr | hr
      · exact hlater r hr
      · rw [List.mem_singleton.mp hr]
        exact hq

theorem opening_effects (settings : Settings) (host : H.State) :
    (Situation.opening settings host : Situation H).engine.effects = [] := by
  obtain ⟨page, mixer, he⟩ := opening_engine settings host
  rw [he]

theorem tracks_after {now : Situation H} (hl : now.session.Listening)
    (he : now.engine.effects = []) (id : SourceId) (steps : List (Step H)) :
    (now.after steps).engine.effects.tracks id = true ↔ Unfinished id (now.history steps) := by
  induction steps using List.reverseRecOn with
  | nil =>
    change now.engine.effects.tracks id = true ↔ _
    rw [he]
    exact ⟨fun h => absurd h Bool.false_ne_true, fun h => absurd h (unfinished_nil id)⟩
  | append_singleton steps step ih =>
    rw [after_snoc, history_snoc, unfinished_snoc, ← ih]
    exact Passage.tracks_finish (after_listening hl steps) id

/-- **Every event is taken once, in the order of arrival.**  What the steps of a run have taken out
of the mailbox, followed by what still waits, is what waited at first, followed by what arrived. -/
theorem consumed_eq_arrived {now : Situation H} (hl : now.session.Listening)
    (steps : List (Step H)) :
    (now.history steps).flatMap Passage.consumed ++ (now.after steps).session.mailbox.waiting =
      now.session.mailbox.waiting ++ (now.history steps).flatMap Passage.arrivals := by
  induction steps generalizing now with
  | nil => simp [Situation.history, Situation.after]
  | cons step rest ih =>
    let p : Passage H := ⟨now, step⟩
    have h := @ih (now.next step) (Passage.finish_listening (p := p) hl)
    have hw : (now.next step).session.mailbox.waiting =
        now.session.mailbox.waiting.drop p.consumed.length ++ p.arrivals := by
      change p.finish.session.mailbox.waiting = _
      rw [Passage.waiting_finish hl]
      rfl
    have hc := Passage.consumed_append_drop p
    change (p.consumed ++ ((now.next step).history rest).flatMap _) ++
      ((now.next step).after rest).session.mailbox.waiting =
        _ ++ (p.arrivals ++ ((now.next step).history rest).flatMap _)
    rw [List.append_assoc, h, hw, ← List.append_assoc, ← List.append_assoc, hc, List.append_assoc]

/-- **The tracked effects are the unfinished ones.**  Over every host, from every configuration and
through every run: an effect is tracked at the end if and only if it is unfinished by the history
of the run; each step drains and keeps as the law says; and every event that arrives is taken
exactly once, in the order of arrival. -/
theorem tracked_iff_unfinished (settings : Settings) (host : H.State) (steps : List (Step H)) :
    let start : Situation H := .opening settings host
    (∀ id, (start.after steps).engine.effects.tracks id = true ↔
      Unfinished id (start.history steps)) ∧
    (∀ p ∈ start.history steps, p.TrackingLaw) ∧
    (start.history steps).flatMap Passage.consumed ++
        (start.after steps).session.mailbox.waiting =
      start.session.mailbox.waiting ++ (start.history steps).flatMap Passage.arrivals := by
  intro start
  have hl : start.session.Listening := opening_listening settings host
  refine ⟨fun id => ?_, fun p hp => ?_, ?_⟩
  · exact tracks_after hl (opening_effects settings host) id steps
  · exact Passage.trackingLaw (listening_of_mem_history hl hp)
  · exact consumed_eq_arrived hl steps

end SoundEngine
