import SoundEngine.Proofs.Calls
import SoundEngine.Proofs.StageCalls
import SoundEngine.Proofs.Twins

/-!
# Halting sources in any order

When everything is stopped, the tracked effects are halted in an order that nobody has chosen.  That
order shows in the calls that are made, but in nothing else, over a host for which halting one source
does not bear on halting another (`Host.HaltsApart`).

* §1 says that of single calls.
* §2 is what it means for whole halts.  A halt goes on by what the host answers, so it is not known
  beforehand which calls it makes; but halting another source first does not change them
  (`halting_halted`), and the two orders lead to states that cannot be told apart (`halted_comm`).
* §3 carries this over to a row of sources: each leaves what it would have left as the first
  (`haltEach_run`), and the host ends in the same state, whatever the order (`haltedAll_perm`).
* §4 is a stage: its calls on two sources change two elements, and so commute.
-/

namespace SoundEngine

variable {H : Host} {R : H.State → H.State → Prop} {st st' : H.State} {id id' : SourceId}

/-! ## 1. Calls -/

/-- The relation holds between states of the host that cannot be told apart: in both, every call has
the same answer and reports the same events. -/
structure Host.Resembles (H : Host) (R : H.State → H.State → Prop) : Prop where
  equivalence : Equivalence R
  respects : ∀ c, H.Respects R c
  reports : ∀ c st st', R st st' → (H.answer c st').2.1 = (H.answer c st).2.1

/-- In related states every call reports the same events, and leads to related states. -/
def Host.ReportsAlike (H : Host) (R : H.State → H.State → Prop) : Prop :=
  ∀ c st st', R st st' →
    (H.answer c st').2.1 = (H.answer c st).2.1 ∧ R (H.answer c st).2.2 (H.answer c st').2.2

theorem Host.Resembles.reportsAlike (hR : H.Resembles R) : H.ReportsAlike R :=
  fun c st st' h => ⟨hR.reports c st st' h, (hR.respects c st st' h).2⟩

theorem reported_alike (hR : H.ReportsAlike R) (h : R st st') (calls : List Call) :
    H.reported st' calls = H.reported st calls := by
  induction calls generalizing st st' with
  | nil => rfl
  | cons c cs ih =>
    obtain ⟨hnotices, hnext⟩ := hR c st st' h
    unfold Host.reported
    rw [hnotices, ih hnext]

/-- A state cannot be told apart from itself. -/
theorem Host.resembles_eq (H : Host) : H.Resembles Eq where
  equivalence := ⟨fun _ => rfl, fun h => h.symm, fun h h' => h.trans h'⟩
  respects := by
    rintro c st _ rfl
    exact ⟨rfl, rfl⟩
  reports := by
    rintro c st _ rfl
    rfl

/-- A call that halts one source, made first, does not change the answer to one that halts another,
and which of them was made first cannot be told. -/
def Host.HaltsApart (H : Host) (R : H.State → H.State → Prop) : Prop :=
  ∀ id id', id ≠ id' → ∀ c c', c.Halts id → c'.Halts id' → ∀ st,
    (H.answer c' (H.answer c st).2.2).1 = (H.answer c' st).1 ∧
      R (H.answer c' (H.answer c st).2.2).2.2 (H.answer c (H.answer c' st).2.2).2.2

section Calls

variable (hR : H.Resembles R)

include hR

theorem after_respects (h : R st st') (calls : List Call) :
    R (H.after st calls) (H.after st' calls) := by
  induction calls generalizing st st' with
  | nil => exact h
  | cons c cs ih => exact ih (hR.respects c st st' h).2

theorem reported_respects (h : R st st') (calls : List Call) :
    H.reported st' calls = H.reported st calls :=
  reported_alike hR.reportsAlike h calls

/-- **Calls that halt one source** do not bear on a call that halts another. -/
theorem apart_after (hA : H.HaltsApart R) (hne : id ≠ id') {calls : List Call}
    (hcalls : ∀ c ∈ calls, c.Halts id) {c' : Call} (hc' : c'.Halts id') (st : H.State) :
    (H.answer c' (H.after st calls)).1 = (H.answer c' st).1 ∧
      R (H.answer c' (H.after st calls)).2.2 (H.after (H.answer c' st).2.2 calls) := by
  induction calls generalizing st with
  | nil => exact ⟨rfl, hR.equivalence.refl _⟩
  | cons c cs ih =>
    obtain ⟨hc, hcs⟩ := List.forall_mem_cons.mp hcalls
    obtain ⟨hreply, hstate⟩ := hA id id' hne c c' hc hc' st
    obtain ⟨hreply', hstate'⟩ := ih hcs (H.answer c st).2.2
    refine ⟨hreply'.trans hreply, ?_⟩
    exact hR.equivalence.trans hstate' (after_respects hR hstate cs)

end Calls

/-! ## 2. Halts -/

/-- What halting a source leaves, from a state of the host. -/
def Host.halting (H : Host) (st : H.State) (id : SourceId) : List Exchange :=
  exchangesOf ((id.halt : HostM H Unit) (.fresh st)).2.chronicle

/-- The state of the host when the source has been halted, with all the calls that this has taken: the
host's own answers decide how many. -/
def Host.halted (H : Host) (st : H.State) (id : SourceId) : H.State :=
  ((id.halt : HostM H Unit) (.fresh st)).2.host

/-- **A halt, from any session**, is the one from the state of its host. -/
theorem halt_run (id : SourceId) (s : Session H) :
    ∃ L, s.Unfolds L ((id.halt : HostM H Unit) s).2 ∧ Conduct.Halting id L ∧
      exchangesOf L = H.halting s.host id ∧
      ((id.halt : HostM H Unit) s).2.host = H.halted s.host id := by
  have hEq : ∀ c, H.Respects Eq c := H.resembles_eq.respects
  obtain ⟨-, L, hfresh, hs, hhost⟩ := halt_twins (fun c _ => hEq c) (.fresh s.host) s rfl
  obtain ⟨K, hK, hhalting⟩ := Conduct.halt_conduct id (.fresh s.host)
  have hchronicle := hfresh.chronicle (Session.fresh_listening s.host)
  have hsame : K = L := (hK.chronicle (Session.fresh_listening s.host)).symm.trans hchronicle
  refine ⟨L, hs, hsame ▸ hhalting, ?_, hhost.symm⟩
  unfold Host.halting
  rw [hchronicle]
  rfl

/-- What it leaves is one of the ways to halt the source. -/
theorem halting_conduct (st : H.State) (id : SourceId) :
    ∃ L, Conduct.Halting id L ∧ H.halting st id = exchangesOf L := by
  obtain ⟨L, -, hhalting, hX, -⟩ := halt_run id (Session.fresh st : Session H)
  exact ⟨L, hhalting, hX.symm⟩

theorem halting_halts (st : H.State) (id : SourceId) :
    ∀ c ∈ (H.halting st id).map Exchange.call, c.Halts id := by
  obtain ⟨L, hhalting, hX⟩ := halting_conduct (H := H) st id
  intro c hc
  obtain ⟨x, hx, rfl⟩ := List.mem_map.mp hc
  rw [hX] at hx
  exact Conduct.halting_calls hhalting x hx

theorem halted_eq_after (st : H.State) (id : SourceId) :
    H.halted st id = H.after st ((H.halting st id).map Exchange.call) := by
  obtain ⟨L, hU, -, hX, hhost⟩ := halt_run id (Session.fresh st : Session H)
  have hafter := hU.host
  rw [hhost, hX] at hafter
  exact hafter

section Halts

variable (hR : H.Resembles R)

include hR

theorem halting_respects (h : R st st') (id : SourceId) : H.halting st' id = H.halting st id := by
  obtain ⟨-, L, hL, hL', -⟩ :=
    halt_twins (fun c (_ : c.Halts id) => hR.respects c) (Session.fresh st : Session H) (.fresh st') h
  unfold Host.halting
  rw [hL.chronicle (Session.fresh_listening st), hL'.chronicle (Session.fresh_listening st')]
  rfl

theorem halted_respects (h : R st st') (id : SourceId) : R (H.halted st id) (H.halted st' id) := by
  rw [halted_eq_after, halted_eq_after, halting_respects hR h id]
  exact after_respects hR h _

variable (hA : H.HaltsApart R) (hne : id ≠ id')

include hA hne

/-- Halting another source first is a difference that calls to halt a source respect. -/
theorem respects_after {calls : List Call} (hcalls : ∀ c ∈ calls, c.Halts id) {c' : Call}
    (hc' : c'.Halts id') : H.Respects (fun st st' => R (H.after st calls) st') c' := by
  intro st st' h
  obtain ⟨hreply, hstate⟩ := apart_after hR hA hne hcalls hc' st
  obtain ⟨hreply', hstate'⟩ := hR.respects c' _ st' h
  refine ⟨hreply'.trans hreply, ?_⟩
  exact hR.equivalence.trans (hR.equivalence.symm hstate) hstate'

/-- The two sessions in which a source is halted at once, and after another one. -/
theorem halting_after (st : H.State) :
    H.halting (H.halted st id) id' = H.halting st id' ∧
      R (H.after (H.halted st id') ((H.halting st id).map Exchange.call))
        (H.halted (H.halted st id) id') := by
  have hrespects : ∀ c', c'.Halts id' → H.Respects (fun st₁ st₂ =>
      R (H.after st₁ ((H.halting st id).map Exchange.call)) st₂) c' :=
    fun c' hc' => respects_after hR hA hne (halting_halts st id) hc'
  have hstart : R (H.after st ((H.halting st id).map Exchange.call)) (H.halted st id) := by
    rw [← halted_eq_after]
    exact hR.equivalence.refl _
  obtain ⟨-, L, hL, hL', hstate⟩ := halt_twins hrespects (Session.fresh st : Session H)
    (.fresh (H.halted st id)) hstart
  refine ⟨?_, hstate⟩
  unfold Host.halting
  rw [hL.chronicle (Session.fresh_listening st),
    hL'.chronicle (Session.fresh_listening (H.halted st id))]
  rfl

/-- **A source is halted by the same calls**, whether or not another one was halted before. -/
theorem halting_halted (st : H.State) : H.halting (H.halted st id) id' = H.halting st id' :=
  (halting_after hR hA hne st).1

/-- **The order of two halts cannot be told.** -/
theorem halted_comm (st : H.State) :
    R (H.halted (H.halted st id') id) (H.halted (H.halted st id) id') := by
  have hstate := (halting_after hR hA hne st).2
  rwa [← halting_halted hR hA hne.symm st, ← halted_eq_after] at hstate

end Halts

/-! ## 3. A row of halts -/

/-- The state of the host when the sources have been halted, one after the other. -/
def Host.haltedAll (H : Host) (st : H.State) (ids : List SourceId) : H.State :=
  ids.foldl H.halted st

section Rows

variable (hR : H.Resembles R)

include hR

theorem haltedAll_respects (h : R st st') (ids : List SourceId) :
    R (H.haltedAll st ids) (H.haltedAll st' ids) := by
  induction ids generalizing st st' with
  | nil => exact h
  | cons id ids ih => exact ih (halted_respects hR h id)

variable (hA : H.HaltsApart R)

include hA

/-- **Halting a row of sources** leaves for each what halting it alone would leave. -/
theorem haltEach_run (effects : Effects) (hnodup : (effects.map ActiveEffect.source).Nodup)
    (s : Session H) :
    ∃ L, s.Unfolds L ((effects.haltEach : HostM H Unit) s).2 ∧
      exchangesOf L = (effects.map ActiveEffect.source).flatMap (H.halting s.host) ∧
      ((effects.haltEach : HostM H Unit) s).2.host =
        H.haltedAll s.host (effects.map ActiveEffect.source) := by
  induction effects generalizing s with
  | nil => exact ⟨[], .refl s, rfl, rfl⟩
  | cons e es ih =>
    obtain ⟨hnew, hnodup⟩ := List.nodup_cons.mp hnodup
    obtain ⟨L, hL, -, hX, hhost⟩ := halt_run e.source s
    obtain ⟨K, hK, hY, hhost'⟩ := ih hnodup ((e.source.halt : HostM H Unit) s).2
    refine ⟨L ++ K, hL.trans hK, ?_, ?_⟩
    · have hrest : (es.map ActiveEffect.source).map (H.halting (H.halted s.host e.source)) =
          (es.map ActiveEffect.source).map (H.halting s.host) := by
        refine List.map_congr_left fun id hid => ?_
        have hne : e.source ≠ id := fun he => hnew (he ▸ hid)
        exact halting_halted hR hA hne s.host
      rw [exchangesOf_append, hX, hY, hhost, List.map_cons, List.flatMap_cons, List.flatMap_def,
        List.flatMap_def, hrest]
    · rw [List.map_cons]
      exact hhost'.trans (by rw [hhost]; rfl)

/-- **The order of a row of halts cannot be told.** -/
theorem haltedAll_perm {ids ids' : List SourceId} (hperm : ids.Perm ids') (hnodup : ids.Nodup)
    (h : R st st') : R (H.haltedAll st ids) (H.haltedAll st' ids') := by
  induction hperm generalizing st st' with
  | nil => exact h
  | cons id _ ih => exact ih (List.nodup_cons.mp hnodup).2 (halted_respects hR h id)
  | swap id id' ids =>
    have hne : id ≠ id' := by
      rintro rfl
      exact (List.nodup_cons.mp hnodup).1 List.mem_cons_self
    refine haltedAll_respects hR ?_ ids
    refine hR.equivalence.trans (halted_comm hR hA hne st) ?_
    exact halted_respects hR (halted_respects hR h id) id'
  | trans hperm _ ih ih' =>
    have hmiddle := ih hnodup (hR.equivalence.refl st)
    exact hR.equivalence.trans hmiddle (ih' (hperm.nodup_iff.mp hnodup) h)

end Rows

/-! ## 4. A stage -/

namespace Stage

/-- A call that halts a source is local to it. -/
theorem local_halts {c : Call} (hc : c.Halts id) : Local id (host.answer c) := by
  rcases hc with rfl | rfl | rfl
  · exact local_pause
  · exact local_seek .zero
  · exact local_asks fun m => (m.map Media.address).getD ""

/-- **On a stage, halts stay apart.** -/
theorem haltsApart : host.HaltsApart Eq := by
  intro id id' hne c c' hc hc' s
  obtain ⟨f, hf, h⟩ := local_halts hc s
  obtain ⟨g, hg, h'⟩ := local_halts hc' s
  have hstate : (host.answer c s).2.2 = State.change s id f :=
    congrArg (fun r => r.2.2) (h s (.refl id s))
  have hstate' : (host.answer c' s).2.2 = State.change s id' g :=
    congrArg (fun r => r.2.2) (h' s (.refl id' s))
  -- each of the two looks at a source that the other one has not changed
  have hafter := h (State.change s id' g) ⟨rfl, find?_change hg hne.symm s⟩
  have hafter' := h' (State.change s id f) ⟨rfl, find?_change hf hne s⟩
  rw [hstate, hstate', hafter, hafter']
  exact ⟨rfl, change_comm hf hg hne s⟩

end Stage

end SoundEngine
