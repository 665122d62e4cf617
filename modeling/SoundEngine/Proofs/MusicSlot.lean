import SoundEngine.Proofs.Calls

/-!
# The slot for music is a machine with two states

To its listeners the slot holds a name and whether it loops, or nothing.  This module shows that the
slot of an engine, over ANY host and through ANY run, moves exactly as a small reference machine
does (`SlotInput.act`), which knows of the world outside only one thing: whether the host built a
source when it was asked to.

* §1 is the machine, and the input that a step of a run is for it.  Starts, pauses, seeks and
  resumptions that fail, routings that are declined and events of all sources are not inputs: the
  machine cannot see them, and so neither can the slot.
* §2 says what the machine leaves open: a request for the track in the slot keeps the very source
  that plays it, and asks it to play only if it is paused; any other request halts what was there
  and then asks for exactly one source.
* §3 proves both for one step, §4 for all runs.
-/

namespace SoundEngine

variable {H : Host}

/-! ## 1. The machine -/

/-- What the slot holds for its listeners: the name of the track, and whether it loops.  The source and
the route of the track are its own business. -/
def Music.shown (music : Music) : Option (String × Bool) := music.map fun t => (t.name, t.looping)

/-- What can happen to the slot.  Whether a source is built for a request is up to the host, and so it is
part of the input. -/
inductive SlotInput where
  | request (name : String) (looping built : Bool)
  | stop
  | nothing

/-- **The reference machine.**  A request for nothing, or for what the slot holds, changes nothing.
Any other request empties the slot and fills it if a source was built. -/
def SlotInput.act : SlotInput → Option (String × Bool) → Option (String × Bool)
  | .request name looping built, slot =>
    if name = "" ∨ slot = some (name, looping) then slot
    else if built then some (name, looping)
    else none
  | .stop, _ => none
  | .nothing, slot => slot

namespace Passage

/-- In the passage the host has built a source. -/
def built (p : Passage H) : Bool := p.exchanges.any Exchange.builds

/-- What the passage is for the slot. -/
def slotInput (p : Passage H) : SlotInput :=
  match p.step with
  | .perform (.playMusic request) => .request request.name request.loops p.built
  | .perform .stopMusic => .stop
  | .perform (.stopAll _) => .stop
  | _ => .nothing

end Passage

/-! ## 2. What the machine leaves open -/

/-- The track keeps the slot and its source.  It is asked whether it is paused, and it is asked to
play, once, if and only if it is; no source is built, and no other one is asked to play. -/
structure Keeps (t : Track) (X : List Exchange) (after : Music) : Prop where
  slot : after = some t
  asked : ∃ paused : Bool, X.head? = some ⟨.isPaused t.source, paused⟩ ∧
    (X.map Exchange.call).count (.play t.source) = if paused then 1 else 0
  alone : ∀ x ∈ X, x.attempts = false ∧ ∀ id, x.call = .play id → id = t.source

/-- The track that was in the slot, if there was one, is paused before all else.  Then the host is
asked, once, to build a source: if it does, the slot holds that source and what was requested, and
if it does not, nothing. -/
structure Replaces (request : MusicRequest) (before : Music) (X : List Exchange) (after : Music) :
    Prop where
  first : ∀ t, before = some t → ∃ reply, X.head? = some ⟨.pause t.source, reply⟩
  once : ∃ id address mode reply,
    X.filter Exchange.attempts = [⟨.createSource id address mode, reply⟩] ∧
      after.map (fun t => (t.source, t.name, t.looping)) =
        if reply.isOk then some (id, request.name, request.loops) else none

/-- What a passage does to the slot beyond its input for the machine.  Whatever is no request and does not
stop the music leaves it untouched, down to the source; a request for what the slot holds keeps it, and
any other request replaces it. -/
structure Passage.SlotLaw (p : Passage H) : Prop where
  untouched : (∀ request, p.step = .perform (.playMusic request) → request.name = "") →
    p.step ≠ .perform .stopMusic → (∀ order, p.step ≠ .perform (.stopAll order)) →
    p.finish.engine.music = p.start.engine.music
  keeps : ∀ request t, p.step = .perform (.playMusic request) → request.name ≠ "" →
    p.start.engine.music = some t → (t.name, t.looping) = (request.name, request.loops) →
    Keeps t p.exchanges p.finish.engine.music
  replaces : ∀ request, p.step = .perform (.playMusic request) → request.name ≠ "" →
    p.start.engine.music.shown ≠ some (request.name, request.loops) →
    Replaces request p.start.engine.music p.exchanges p.finish.engine.music

/-! ## 3. One step -/

namespace Conduct

/-- **A new track is one attempt**, and it is in the slot if and only if the attempt succeeds. -/
theorem beginning_attempts {supply supply' : Supply} {m : Mixer} {page : Option Url}
    {address : String} {request : MusicRequest} {outcome : MusicOutcome} {music : Music}
    {K : List Entry} (h : Beginning supply m page address request (outcome, supply', music) K) :
    ∃ reply, (exchangesOf K).filter Exchange.attempts =
        [⟨.createSource supply.nextId address (.of page address), reply⟩] ∧
      music.map (fun t => (t.source, t.name, t.looping)) =
        if reply.isOk then some (supply.nextId, request.name, request.loops) else none := by
  cases h with
  | @failed failure _ L hL =>
    refine ⟨.error failure, ?_, rfl⟩
    rw [exchangesOf_append, (creating_error hL).2]
    rfl
  | @started id _ routing start L R S hL hR hS =>
    obtain ⟨rfl, -, hX⟩ := creating_ok hL
    refine ⟨.ok (), ?_, rfl⟩
    rw [exchangesOf_append, hX, exchangesOf_cons_exchange, exchangesOf_cons_exchange,
      exchangesOf_append, exchangesOf_append]
    simp only [List.filter_append, List.filter_cons, routes_attempts hR, starting_attempts hS]
    rfl

theorem keeps_of_resuming {t : Track} {outcome : MusicOutcome} {L : List Entry}
    (h : Resuming t.source outcome L) : Keeps t (exchangesOf L) (some t) := by
  refine ⟨rfl, ?_, fun x hx => ⟨?_, fun id hid => ?_⟩⟩
  · cases h with
    | playing => exact ⟨false, rfl, by simp⟩
    | paused hS =>
      refine ⟨true, rfl, ?_⟩
      cases hS <;> simp
  · simpa using List.filter_eq_nil_iff.mp (resuming_attempts h) x hx
  · rcases resuming_calls h x hx with hc | hc | hc <;> rw [hc] at hid
    · exact absurd hid (by simp)
    · exact (Call.play.inj hid).symm
    · exact absurd hid (by simp)

theorem stoppingMusic_attempts {music : Music} {L : List Entry} (h : StoppingMusic music L) :
    (exchangesOf L).filter Exchange.attempts = [] := by
  cases h with
  | idle => rfl
  | stopped hL => simpa using halting_attempts hL

/-- The track in the slot is paused before anything else happens. -/
theorem stoppingMusic_head {t : Track} {L : List Entry} (h : StoppingMusic (some t) L)
    (X : List Exchange) :
    ∃ reply, (exchangesOf L ++ X).head? = some ⟨.pause t.source, reply⟩ := by
  cases h with
  | stopped hL => cases hL <;> exact ⟨_, rfl⟩

theorem replaces_of_beginning {supply supply' : Supply} {m : Mixer} {page : Option Url}
    {address : String} {request : MusicRequest} {outcome : MusicOutcome} {before after : Music}
    {L K : List Entry} (hL : StoppingMusic before L)
    (hK : Beginning supply m page address request (outcome, supply', after) K) :
    Replaces request before (exchangesOf (L ++ K)) after := by
  rw [exchangesOf_append]
  constructor
  · rintro t rfl
    exact stoppingMusic_head hL _
  · obtain ⟨reply, hX, ha⟩ := beginning_attempts hK
    refine ⟨_, _, _, reply, ?_, ha⟩
    rw [List.filter_append, stoppingMusic_attempts hL, List.nil_append, hX]

end Conduct

/-- What the slot shows afterwards hangs on the one attempt. -/
theorem Replaces.shown {request : MusicRequest} {before after : Music} {X : List Exchange}
    (h : Replaces request before X after) :
    after.shown = if X.any Exchange.builds then some (request.name, request.loops) else none := by
  obtain ⟨id, address, mode, reply, hX, ha⟩ := h.once
  have hb : X.any Exchange.builds = reply.isOk := by
    rw [Exchange.any_builds_eq, hX]
    simp [Exchange.builds]
  have hs : after.shown = (after.map fun t => (t.source, t.name, t.looping)).map Prod.snd := by
    rw [Option.map_map]
    rfl
  rw [hs, ha, hb]
  split <;> rfl

namespace Passage

open Conduct

/-- A request for music, opened. -/
theorem slot_of_playMusic {p : Passage H} (hl : p.start.session.Listening) {request : MusicRequest}
    (h : p.step = .perform (.playMusic request)) :
    (request.name = "" ∧ p.finish.engine.music = p.start.engine.music) ∨
    (∃ t, request.name ≠ "" ∧ p.start.engine.music = some t ∧
      (t.name, t.looping) = (request.name, request.loops) ∧
      Keeps t p.exchanges p.finish.engine.music) ∨
    (request.name ≠ "" ∧ p.start.engine.music.shown ≠ some (request.name, request.loops) ∧
      Replaces request p.start.engine.music p.exchanges p.finish.engine.music) := by
  obtain ⟨answer, L, -, hX, hA⟩ := acted hl h
  rw [hX]
  generalize p.finish.engine = e' at hA ⊢
  cases hA with
  | playMusic hL =>
    cases hL with
    | skipped hr => exact .inl ⟨Address.resolve_eq_none_iff.mp hr, rfl⟩
    | answered hr ht ha hL =>
      refine .inr (.inl ⟨_, Address.ne_empty_of_resolve hr, ht, Track.answers_iff.mp ha, ?_⟩)
      change Keeps _ _ p.start.engine.music
      rw [show p.start.engine.music = _ from ht]
      exact keeps_of_resuming hL
    | replaced hr hother hL hK =>
      refine .inr (.inr ⟨Address.ne_empty_of_resolve hr, ?_, replaces_of_beginning hL hK⟩)
      intro hshown
      obtain ⟨t, ht, hs⟩ := Option.map_eq_some_iff.mp hshown
      have ha := hother t ht
      rw [Track.answers_iff.mpr hs] at ha
      exact absurd ha (by simp)

/-- What is no request for music and does not stop it does not touch the slot. -/
theorem slot_untouched {p : Passage H} (hl : p.start.session.Listening)
    (hplay : ∀ request, p.step ≠ .perform (.playMusic request))
    (hstop : p.step ≠ .perform .stopMusic) (hall : ∀ order, p.step ≠ .perform (.stopAll order)) :
    p.finish.engine.music = p.start.engine.music := by
  cases hstep : p.step with
  | meanwhile change notices => rw [(rested hstep).2.1]
  | perform operation =>
    obtain ⟨answer, L, -, -, hA⟩ := acted hl hstep
    generalize p.finish.engine = e' at hA ⊢
    cases hA with
    | playMusic => exact absurd hstep (hplay _)
    | stopMusic => exact absurd hstep hstop
    | stopAll => exact absurd hstep (hall _)
    | _ => rfl

theorem slot_stopped {p : Passage H} (hl : p.start.session.Listening)
    (h : p.step = .perform .stopMusic ∨ ∃ order, p.step = .perform (.stopAll order)) :
    p.finish.engine.music = none := by
  rcases h with h | ⟨order, h⟩
  all_goals
    obtain ⟨answer, L, -, -, hA⟩ := acted hl h
    generalize p.finish.engine = e' at hA ⊢
    cases hA
    rfl

/-- **One step.**  The slot moves as the machine does. -/
theorem shown_finish {p : Passage H} (hl : p.start.session.Listening) :
    p.finish.engine.music.shown = p.slotInput.act p.start.engine.music.shown := by
  unfold slotInput
  split
  case h_1 request h =>
    rcases slot_of_playMusic hl h with ⟨hn, hm⟩ | ⟨t, hn, ht, hs, hk⟩ | ⟨hn, hs, hr⟩
    · simp only [SlotInput.act, if_pos (Or.inl hn)]
      rw [hm]
    · have hshown : p.start.engine.music.shown = some (request.name, request.loops) := by
        rw [ht, ← hs]
        rfl
      simp only [SlotInput.act, if_pos (Or.inr hshown)]
      rw [hk.slot, ht]
    · simp only [SlotInput.act, if_neg (not_or.mpr ⟨hn, hs⟩)]
      exact hr.shown
  case h_2 h => rw [slot_stopped hl (.inl h)]; rfl
  case h_3 order h => rw [slot_stopped hl (.inr ⟨order, h⟩)]; rfl
  case h_4 hplay hstop hall =>
    rw [slot_untouched hl hplay hstop hall]
    rfl

theorem slotLaw {p : Passage H} (hl : p.start.session.Listening) : p.SlotLaw where
  untouched hplay hstop hall := by
    by_cases h : ∃ request, p.step = .perform (.playMusic request)
    · obtain ⟨request, h⟩ := h
      rcases slot_of_playMusic hl h with ⟨-, hm⟩ | ⟨t, hn, -⟩ | ⟨hn, -⟩
      · exact hm
      · exact absurd (hplay request h) hn
      · exact absurd (hplay request h) hn
    · exact slot_untouched hl (fun request hr => h ⟨request, hr⟩) hstop hall
  keeps request t h hname ht hs := by
    rcases slot_of_playMusic hl h with ⟨hn, -⟩ | ⟨u, -, hu, -, hk⟩ | ⟨-, hn, -⟩
    · exact absurd hn hname
    · rw [ht] at hu
      cases hu
      exact hk
    · refine absurd ?_ hn
      rw [ht, ← hs]
      rfl
  replaces request h hname hother := by
    rcases slot_of_playMusic hl h with ⟨hn, -⟩ | ⟨u, -, hu, hs, -⟩ | ⟨-, -, hr⟩
    · exact absurd hn hname
    · refine absurd ?_ hother
      rw [hu, ← hs]
      rfl
    · exact hr

end Passage

/-! ## 4. All runs -/

theorem shown_after {now : Situation H} (hl : now.session.Listening) (steps : List (Step H)) :
    (now.after steps).engine.music.shown =
      ((now.history steps).map Passage.slotInput).foldl (fun slot input => input.act slot)
        now.engine.music.shown := by
  induction steps generalizing now with
  | nil => rfl
  | cons step rest ih =>
    have h := ih (Passage.finish_listening (p := ⟨now, step⟩) hl)
    have hs := Passage.shown_finish (p := ⟨now, step⟩) hl
    rw [hs] at h
    exact h

theorem opening_music (settings : Settings) (host : H.State) :
    (Situation.opening settings host : Situation H).engine.music = none := by
  obtain ⟨page, mixer, he⟩ := opening_engine settings host
  rw [he]

/-- **The slot refines the reference machine.**  Over every host, from every configuration and
through every run of operations and events, the slot shows what the machine holds after the inputs
of the run; and each step keeps or replaces the source in the slot as the law says. -/
theorem music_refines (settings : Settings) (host : H.State) (steps : List (Step H)) :
    let start : Situation H := .opening settings host
    (start.after steps).engine.music.shown =
        ((start.history steps).map Passage.slotInput).foldl (fun slot input => input.act slot) none ∧
      ∀ p ∈ start.history steps, p.SlotLaw := by
  intro start
  have hl : start.session.Listening := opening_listening settings host
  constructor
  · rw [shown_after hl, opening_music]
    rfl
  · exact fun p hp => Passage.slotLaw (listening_of_mem_history hl hp)

end SoundEngine
