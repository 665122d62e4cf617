import SoundEngine.Proofs.Attempts
import SoundEngine.Proofs.Likeness

/-!
# Letting the context run

A context may be suspended until the user has done something.  To unlock the engine is to ask the host to
resume it, and to wait.  How long that takes is the host's affair, and so is how it ends: the result of
the resumption and the state of the context are two answers, and neither follows from the other.

What the engine tells is the second one, read when the wait is over (§2).  And nothing else comes of it.
An unlock calls the host about the context and about nothing else, and leaves the engine as it is, so for
every later step it is as if the engine had rested while the host changed.  If the host keeps its context
apart from everything else, not even that change can be seen (§3).

* §1 is what a host says about its context, and how a resumption goes on in it.
* §2 goes through an unlock, for every host.
* §3 compares the run after an unlock with the run without it (`unlock_tells_and_touches_nothing`).
-/

namespace SoundEngine

open Conduct

variable {H : Host} {R : H.State → H.State → Prop}

/-! ## 1. The context of a host -/

/-- The host says that its context runs, if it is asked now. -/
def Host.runs (H : Host) (st : H.State) : Bool := decide ((H.answer .contextState st).1 = .running)

/-- The context is in this state: the host says so as often as it is asked, if it is asked nothing
else. -/
def Host.ContextIs (H : Host) (st : H.State) (state : ContextState) : Prop :=
  ∀ n, (H.answer .contextState (H.after st (List.replicate n .contextState))).1 = state

/-- How a resumption goes on: it is undecided a number of times that the host is asked, and then ends
with a result and leaves the host in a state. -/
inductive Host.Resumes (H : Host) :
    H.State → Nat → Except ContextFailure Unit → H.State → Prop
  | ends {st : H.State} {result : Except ContextFailure Unit}
      (h : (H.answer .awaitResume st).1 = some result) :
      H.Resumes st 0 result (H.answer .awaitResume st).2.2
  | waits {st st' : H.State} {k : Nat} {result : Except ContextFailure Unit}
      (h : (H.answer .awaitResume st).1 = none)
      (hrest : H.Resumes (H.answer .awaitResume st).2.2 k result st') :
      H.Resumes st (k + 1) result st'

theorem Host.ContextIs.runs {st : H.State} {state : ContextState} (h : H.ContextIs st state) (n : Nat) :
    H.runs (H.after st (List.replicate n .contextState)) = decide (state = .running) :=
  congrArg (fun s => decide (s = ContextState.running)) (h n)

/-! ## 2. Unlocking -/

namespace Engine

variable {e : Engine} {patience : Nat} {s : Session H}

theorem awaitResume_ends {result : Except ContextFailure Unit}
    (h : (H.answer .awaitResume s.host).1 = some result) (patience : Nat) :
    Engine.awaitResume (patience + 1) s = (some result, (ask .awaitResume s).2) := by
  have hask : ask .awaitResume s = (some result, (ask .awaitResume s).2) := Prod.ext h rfl
  rw [Engine.awaitResume]
  simp only [bind, StateT.bind]
  rw [hask]
  rfl

theorem awaitResume_waits (h : (H.answer .awaitResume s.host).1 = none) (patience : Nat) :
    Engine.awaitResume (patience + 1) s = Engine.awaitResume patience (ask .awaitResume s).2 := by
  have hask : ask .awaitResume s = (none, (ask .awaitResume s).2) := Prod.ext h rfl
  rw [Engine.awaitResume]
  simp only [bind, StateT.bind]
  rw [hask]

/-- **A wait that is long enough ends as the resumption does.** -/
theorem awaitResume_resumes {st st' : H.State} {k : Nat} {result : Except ContextFailure Unit}
    (h : H.Resumes st k result st') (hk : k < patience) (hs : s.host = st) :
    (Engine.awaitResume patience s).1 = some result ∧
      (Engine.awaitResume patience s).2.host = st' := by
  induction h generalizing patience s with
  | ends h =>
    obtain ⟨patience, rfl⟩ := Nat.exists_eq_add_of_lt hk
    subst hs
    rw [Nat.zero_add, awaitResume_ends h]
    exact ⟨rfl, Session.ask_host _ s⟩
  | waits h _ ih =>
    obtain ⟨patience, rfl⟩ := Nat.exists_eq_succ_of_ne_zero (Nat.ne_zero_of_lt hk)
    subst hs
    rw [Nat.succ_eq_add_one, awaitResume_waits h]
    exact ih (Nat.lt_of_succ_lt_succ hk) (Session.ask_host _ s)

/-- A wait that is too short tells nothing. -/
theorem awaitResume_undecided
    (h : ∀ k result st', H.Resumes s.host k result st' → patience ≤ k) :
    (Engine.awaitResume patience s).1 = none := by
  induction patience generalizing s with
  | zero => rfl
  | succ patience ih =>
    cases hreply : (H.answer .awaitResume s.host).1 with
    | some result => exact absurd (h 0 result _ (.ends hreply)) (Nat.not_succ_le_zero patience)
    | none =>
      rw [awaitResume_waits hreply]
      refine ih fun k result st' hresumes => ?_
      rw [Session.ask_host] at hresumes
      exact Nat.le_of_succ_le_succ (h (k + 1) result st' (.waits hreply hresumes))

/-- Without a context there is nothing to unlock. -/
theorem unlock_noContext (hpatience : 0 < patience) (hc : e.mixer.hasContext = false)
    (s : Session H) : e.unlock patience s = (some false, s) := by
  unfold Engine.unlock
  rw [if_neg hpatience.ne', hc]
  rfl

/-- A context that runs is only looked at again. -/
theorem unlock_running (hpatience : 0 < patience) (hc : e.mixer.hasContext = true)
    (hruns : H.runs s.host = true) :
    (e.unlock patience s).1 = some (H.runs (H.after s.host [.contextState])) ∧
      (e.unlock patience s).2.host = H.after s.host [.contextState, .contextState] := by
  have hrun : e.unlock patience s =
      (some <$> Engine.isRunning : HostM H (Option Bool)) (ask .contextState s).2 := by
    unfold Engine.unlock
    rw [if_neg hpatience.ne', hc]
    exact congrFun (if_pos hruns) (ask .contextState s).2
  have hhost : (ask .contextState s).2.host = H.after s.host [.contextState] :=
    Session.ask_host .contextState s
  have hlast : (ask .contextState (ask .contextState s).2).2.host =
      (H.answer .contextState (ask .contextState s).2.host).2.2 := Session.ask_host .contextState _
  rw [hhost] at hlast
  rw [hrun]
  exact ⟨congrArg (fun st => some (H.runs st)) hhost, hlast⟩

/-- The session in which the wait for a resumption begins. -/
def requested (s : Session H) : Session H := (ask .resume (ask .contextState s).2).2

theorem requested_host (s : Session H) :
    (requested s).host = H.after s.host [.contextState, .resume] := by
  unfold requested
  rw [Session.ask_host, Session.ask_host]
  rfl

/-- What is done when a resumption has ended or is no longer waited for. -/
def afterwards : Option (Except ContextFailure Unit) → HostM H (Option Bool)
  | none => pure none
  | some (.error failure) => do
    log (.unlockFailed failure)
    some <$> isRunning
  | some (.ok ()) => some <$> isRunning

theorem unlock_waits (hpatience : 0 < patience) (hc : e.mixer.hasContext = true)
    (hruns : H.runs s.host = false) :
    e.unlock patience s = (Engine.awaitResume patience >>= afterwards) (requested s) := by
  have hno : ¬ H.runs s.host = true := Bool.eq_false_iff.mp hruns
  unfold Engine.unlock
  rw [if_neg hpatience.ne', hc]
  exact congrFun (if_neg hno) (ask .contextState s).2

/-- **An unlock tells what the context is when the wait is over**, whatever the resumption came to. -/
theorem unlock_resumes (hpatience : 0 < patience) (hc : e.mixer.hasContext = true)
    (hruns : H.runs s.host = false) {result : Except ContextFailure Unit}
    (h : (Engine.awaitResume patience (requested s)).1 = some result) :
    let t := (Engine.awaitResume patience (requested s)).2
    (e.unlock patience s).1 = some (H.runs t.host) ∧
      (e.unlock patience s).2.host = (H.answer .contextState t.host).2.2 := by
  intro t
  have hrun : e.unlock patience s = afterwards (some result) t := by
    rw [unlock_waits hpatience hc hruns, ← h]
    rfl
  rw [hrun]
  match result with
  | .ok () => exact ⟨rfl, Session.ask_host .contextState t⟩
  | .error failure => exact ⟨rfl, Session.ask_host .contextState (log (.unlockFailed failure) t).2⟩

theorem unlock_undecided (hpatience : 0 < patience) (hc : e.mixer.hasContext = true)
    (hruns : H.runs s.host = false) (h : (Engine.awaitResume patience (requested s)).1 = none) :
    (e.unlock patience s).1 = none := by
  have hrun : e.unlock patience s =
      afterwards none (Engine.awaitResume patience (requested s)).2 := by
    rw [unlock_waits hpatience hc hruns, ← h]
    rfl
  rw [hrun]
  rfl

theorem isUnlocked_run (e : Engine) (s : Session H) :
    (e.isUnlocked s).1 = (e.mixer.hasContext && H.runs s.host) := by
  unfold Engine.isUnlocked
  cases e.mixer.hasContext with
  | true => rfl
  | false => rfl

end Engine

namespace Conduct

variable {patience : Nat} {L : List Entry} {s t : Session H}

theorem awaiting_asks {result : Option (Except ContextFailure Unit)} (h : Awaiting patience result L) :
    ∀ x ∈ exchangesOf L, x.call = .awaitResume := by
  induction h with
  | impatient => simp
  | decided => simp
  | pending _ ih => exact List.forall_mem_cons.mpr ⟨rfl, ih⟩

/-- An unlock calls the host about the context. -/
theorem unlocking_contextual {hasContext : Bool} {result : Option Bool}
    (h : Unlocking hasContext patience result L) :
    ∀ x ∈ exchangesOf L, x.call.isContextual = true := by
  have hawaiting : ∀ {n : Nat} {result : Option (Except ContextFailure Unit)} {K : List Entry},
      Awaiting n result K → ∀ x ∈ exchangesOf K, x.call.isContextual = true := by
    intro n result K hK x hx
    rw [awaiting_asks hK x hx]
    rfl
  cases h with
  | unpolled => simp
  | noContext => simp
  | running => simp [Call.isContextual]
  | pending _ _ hL => simpa [Call.isContextual] using hawaiting hL
  | resumed _ _ hL | failed _ _ hL =>
    simp only [exchangesOf_cons_exchange, exchangesOf_append, exchangesOf_cons_record]
    refine List.forall_mem_cons.mpr ⟨rfl, List.forall_mem_cons.mpr ⟨rfl, ?_⟩⟩
    exact List.forall_mem_append.mpr ⟨hawaiting hL, by simp [Call.isContextual]⟩

/-- A context that runs is not asked to resume. -/
theorem unlocking_running {hasContext : Bool} {result : Option Bool}
    (h : Unlocking hasContext patience result L) (hU : s.Unfolds L t) (hruns : H.runs s.host = true) :
    ∀ x ∈ exchangesOf L, x.call = .contextState := by
  have hrunning : (H.answer .contextState s.host).1 = .running := of_decide_eq_true hruns
  cases h with
  | unpolled | noContext | running => simp
  | pending _ hb | resumed _ hb | failed _ hb => exact absurd (hU.first.trans hrunning) hb

/-- **A context that does not run is asked to resume once.** -/
theorem unlocking_resumes {result : Option Bool} (hpatience : 0 < patience)
    (h : Unlocking true patience result L) (hU : s.Unfolds L t) (hruns : H.runs s.host = false) :
    ((exchangesOf L).map Exchange.call).count .resume = 1 := by
  have hno : (H.answer .contextState s.host).1 ≠ .running := of_decide_eq_false hruns
  have hawaiting : ∀ {n : Nat} {result : Option (Except ContextFailure Unit)} {K : List Entry},
      Awaiting n result K → ((exchangesOf K).map Exchange.call).count .resume = 0 := by
    intro n result K hK
    refine List.count_eq_zero.mpr fun hmem => ?_
    obtain ⟨x, hx, hcall⟩ := List.mem_map.mp hmem
    exact absurd ((awaiting_asks hK x hx).symm.trans hcall) (by decide)
  cases h with
  | unpolled => exact absurd hpatience (Nat.lt_irrefl 0)
  | noContext _ hc => cases hc
  | running => exact absurd hU.first.symm hno
  | pending _ _ hL => simp [hawaiting hL]
  | resumed _ _ hL | failed _ _ hL => simp [hawaiting hL]

/-- An operation on the context leaves the engine as it is. -/
theorem acts_contextual {drained : List Notice} {e : Engine} {op : Operation}
    {result : Answer × Engine} (h : Acts drained e op result L) (hop : op.isContextual = true) :
    result.2 = e ∧ ∀ x ∈ exchangesOf L, x.call.isContextual = true := by
  cases h with
  | unlock hL => exact ⟨rfl, unlocking_contextual hL⟩
  | isUnlocked hL =>
    refine ⟨rfl, ?_⟩
    cases hL <;> simp [Call.isContextual]
  | _ => exact absurd hop Bool.false_ne_true

theorem acts_unlock {drained : List Notice} {e : Engine} {result : Answer × Engine}
    (h : Acts drained e (.unlock patience) result L) :
    ∃ told, Unlocking e.mixer.hasContext patience told L := by
  cases h with
  | unlock hL => exact ⟨_, hL⟩

end Conduct

section Passages

variable {now : Situation H} {patience : Nat}

/-- The passage of an unlock. -/
def Situation.unlock (now : Situation H) (patience : Nat) : Passage H :=
  ⟨now, .perform (.unlock patience)⟩

/-- The look at the context right after a passage. -/
def Passage.look (p : Passage H) : Passage H := ⟨p.finish, .perform .isUnlocked⟩

theorem Situation.unlocking (hl : now.session.Listening) (patience : Nat) :
    let p := now.unlock patience
    now.session.Unfolds p.entries p.finish.session ∧
      ∃ told, Unlocking now.engine.mixer.hasContext patience told p.entries := by
  intro p
  obtain ⟨answer, L, -, hentries, hU, hacts⟩ := Passage.performed (p := p) hl rfl
  rw [show p.entries = L from hentries] at hU ⊢
  exact ⟨hU, acts_unlock hacts⟩

/-- **An operation on the context calls the host about the context**, and leaves the engine and the
events that wait. -/
theorem Situation.contextual (hl : now.session.Listening) {op : Operation}
    (hop : op.isContextual = true) :
    let p : Passage H := ⟨now, .perform op⟩
    p.finish.engine = now.engine ∧ (∀ x ∈ p.exchanges, x.call.isContextual = true) ∧
      p.finish.session.mailbox = .listening (now.session.mailbox.waiting ++ p.arrivals) := by
  intro p
  have hconsumed : p.consumed = [] := by
    cases op with
    | unlock | isUnlocked => rfl
    | _ => exact absurd hop Bool.false_ne_true
  obtain ⟨answer, L, -, hX, hacts⟩ := Passage.acted (p := p) hl rfl
  obtain ⟨hengine, hcalls⟩ := acts_contextual hacts hop
  have hwaiting := Passage.waiting_finish (p := p) hl
  rw [hconsumed] at hengine hwaiting
  rw [hX]
  exact ⟨hengine, hcalls, hwaiting⟩

theorem Passage.look_answer (p : Passage H) :
    p.look.answer =
      some (.unlocked (some (p.finish.engine.mixer.hasContext && H.runs p.finish.session.host))) := by
  rw [← Engine.isUnlocked_run]
  rfl

theorem Situation.unlock_answer (now : Situation H) (patience : Nat) :
    (now.unlock patience).answer = some (.unlocked (now.engine.unlock patience now.session).1) := rfl

/-- Without a context, an unlock does nothing at all. -/
theorem Situation.unlock_noContext (hl : now.session.Listening) (hpatience : 0 < patience)
    (hc : now.engine.mixer.hasContext = false) :
    let p := now.unlock patience
    p.finish = now ∧ p.exchanges = [] ∧ p.answer = some (.unlocked (some false)) ∧
      p.look.answer = p.answer := by
  intro p
  have hrun := Engine.unlock_noContext hpatience hc now.session
  have hfinish : p.finish = now := congrArg (fun r => Situation.mk now.engine r.2) hrun
  have hanswer : p.answer = some (.unlocked (some false)) := by
    rw [now.unlock_answer, hrun]
  refine ⟨hfinish, ?_, hanswer, ?_⟩
  · obtain ⟨hU, told, hunlocking⟩ := now.unlocking hl patience
    rw [hc] at hunlocking
    change exchangesOf p.entries = []
    generalize p.entries = L at hunlocking
    cases hunlocking with
    | unpolled | noContext => rfl
    | running _ hc | pending hc | resumed hc | failed hc => cases hc
  · rw [p.look_answer, hanswer, hfinish, hc, Bool.false_and]

/-- A context that runs is looked at, and not asked to resume. -/
theorem Situation.unlock_running (hl : now.session.Listening) (hpatience : 0 < patience)
    (hc : now.engine.mixer.hasContext = true) (hruns : H.runs now.session.host = true) :
    let p := now.unlock patience
    (∀ x ∈ p.exchanges, x.call = .contextState) ∧
      p.answer = some (.unlocked (some (H.runs (H.after now.session.host [.contextState])))) ∧
      (H.ContextIs now.session.host .running →
        p.answer = some (.unlocked (some true)) ∧ p.look.answer = p.answer) := by
  intro p
  obtain ⟨hresult, hhost⟩ := Engine.unlock_running hpatience hc hruns
  have hanswer : p.answer =
      some (.unlocked (some (H.runs (H.after now.session.host [.contextState])))) := by
    rw [now.unlock_answer, hresult]
  obtain ⟨hU, told, hunlocking⟩ := now.unlocking hl patience
  refine ⟨unlocking_running hunlocking hU hruns, hanswer, fun hstate => ?_⟩
  have hagain : H.runs (H.after now.session.host [.contextState]) = true := hstate.runs 1
  have hlater : H.runs (H.after now.session.host [.contextState, .contextState]) = true :=
    hstate.runs 2
  have htrue : p.answer = some (.unlocked (some true)) := by
    rw [hanswer, hagain]
  have hfinish : p.finish.session.host = H.after now.session.host [.contextState, .contextState] :=
    hhost
  have hc' : p.finish.engine.mixer.hasContext = true := hc
  refine ⟨htrue, ?_⟩
  rw [p.look_answer, htrue, hfinish, hc', hlater]
  rfl

/-- **A context that does not run is asked to resume, once**, and what is told is what it is when the
resumption has ended. -/
theorem Situation.unlock_resumes (hl : now.session.Listening) (hpatience : 0 < patience)
    (hc : now.engine.mixer.hasContext = true) (hruns : H.runs now.session.host = false) :
    let p := now.unlock patience
    let asked := H.after now.session.host [.contextState, .resume]
    (p.exchanges.map Exchange.call).count .resume = 1 ∧
      (∀ k result st, H.Resumes asked k result st → k < patience →
        p.answer = some (.unlocked (some (H.runs st))) ∧
          ∀ state, H.ContextIs st state → p.look.answer = p.answer) ∧
      ((∀ k result st, H.Resumes asked k result st → patience ≤ k) →
        p.answer = some (.unlocked none)) := by
  intro p asked
  have hrequested : (Engine.requested now.session).host = asked := Engine.requested_host now.session
  obtain ⟨hU, told, hunlocking⟩ := now.unlocking hl patience
  rw [hc] at hunlocking
  refine ⟨Conduct.unlocking_resumes hpatience hunlocking hU hruns,
    fun k result st hresumes hk => ?_, fun hlong => ?_⟩
  · obtain ⟨hended, hst⟩ := Engine.awaitResume_resumes hresumes hk hrequested
    obtain ⟨hresult, hhost⟩ := Engine.unlock_resumes hpatience hc hruns hended
    rw [hst] at hresult hhost
    have hanswer : p.answer = some (.unlocked (some (H.runs st))) := by
      rw [now.unlock_answer, hresult]
    refine ⟨hanswer, fun state hstate => ?_⟩
    have hfinish : p.finish.session.host = H.after st [.contextState] := hhost
    have hc' : p.finish.engine.mixer.hasContext = true := hc
    rw [p.look_answer, hanswer, hfinish, hc', Bool.true_and]
    have hsame : H.runs (H.after st [.contextState]) = H.runs st :=
      (hstate.runs 1).trans (hstate.runs 0).symm
    rw [hsame]
  · rw [← hrequested] at hlong
    rw [now.unlock_answer, Engine.unlock_undecided hpatience hc hruns
      (Engine.awaitResume_undecided hlong)]

end Passages

/-! ## 3. The run afterwards -/

/-- The two passages answer the same, and make the same calls with the same answers, in the same order:
nothing that is seen of the one tells it from the other. -/
structure Passage.Repeats (p q : Passage H) : Prop where
  answer : q.answer = p.answer
  exchanges : q.exchanges = p.exchanges

/-- The two situations have the same engine, and the same events wait in them; the states of their hosts
are related.  It is kept by every step that both take, if the host answers alike in related states. -/
structure Situation.Matches (R : H.State → H.State → Prop) (a b : Situation H) : Prop where
  listening : a.session.Listening
  engine : b.engine = a.engine
  mailbox : b.session.mailbox = a.session.mailbox
  host : R a.session.host b.session.host

/-- The step is an operation on the context. -/
def Step.isContextual : Step H → Bool
  | .perform op => op.isContextual
  | .meanwhile _ _ => false

namespace Situation.Matches

variable {a b c : Situation H}

theorem trans (hR : Equivalence R) (h : a.Matches R b) (h' : b.Matches R c) : a.Matches R c :=
  ⟨h.listening, h'.engine.trans h.engine, h'.mailbox.trans h.mailbox, hR.trans h.host h'.host⟩

theorem symm (hR : Equivalence R) (h : a.Matches R b) : b.Matches R a := by
  obtain ⟨waiting, hw⟩ := h.listening
  exact ⟨⟨waiting, h.mailbox.trans hw⟩, h.engine.symm, h.mailbox.symm, hR.symm h.host⟩

/-- An operation that does the same from hosts that are related does the same in both. -/
theorem acts (hreports : H.ReportsAlike R) (h : a.Matches R b) {op : Operation}
    (htwins : ∀ (e : Engine) n, Twins R (e.act n op : HostM H _)) :
    (Passage.mk a (.perform op)).Repeats ⟨b, .perform op⟩ ∧
      (a.next (.perform op)).Matches R (b.next (.perform op)) := by
  obtain ⟨waiting, hw⟩ := h.listening
  have hw' : b.session.mailbox = .listening waiting := h.mailbox.trans hw
  obtain ⟨t, ht⟩ := a.setsOut hw op
  obtain ⟨t', ht'⟩ := b.setsOut hw' op
  have hrun := ht.run
  have hrun' := ht'.run
  have hheeded : heeded b.engine (Passage.mk b (.perform op)).consumed =
      heeded a.engine (Passage.mk a (.perform op)).consumed := by
    unfold Passage.consumed Conduct.consumed
    rw [h.engine, h.mailbox]
  rw [hheeded] at hrun'
  generalize heeded a.engine (Passage.mk a (.perform op)).consumed = e at hrun hrun'
  have hstart : R t.host t'.host := by
    rw [ht.host, ht'.host]
    exact h.host
  obtain ⟨hresult, L, hL, hL', hend⟩ := htwins e waiting.length t t' hstart
  have hp : a.next (.perform op) =
      ⟨(e.act waiting.length op t).1.2, (e.act waiting.length op t).2⟩ :=
    Passage.finish_of_perform hrun
  have hq : b.next (.perform op) =
      ⟨(e.act waiting.length op t').1.2, (e.act waiting.length op t').2⟩ :=
    Passage.finish_of_perform hrun'
  refine ⟨⟨?_, ?_⟩, ?_, ?_, ?_, ?_⟩
  · rw [Passage.answer_of_perform hrun, Passage.answer_of_perform hrun', hresult]
  · rw [ht.exchanges (by rw [Passage.finish, hp]; exact hL),
      ht'.exchanges (by rw [Passage.finish, hq]; exact hL')]
  · exact Passage.finish_listening (p := ⟨a, .perform op⟩) h.listening
  · rw [hp, hq, hresult]
  · rw [hp, hq]
    change (e.act waiting.length op t').2.mailbox = (e.act waiting.length op t).2.mailbox
    rw [hL.mailbox ht.mailbox, hL'.mailbox ht'.mailbox, reported_alike hreports hstart]
  · rw [hp, hq]
    exact hend

/-- The host changes, and reports events, in both. -/
theorem rests (h : a.Matches R b) {change : H.State → H.State}
    (hchange : ∀ st st', R st st' → R (change st) (change st')) (notices : List Notice) :
    (Passage.mk a (.meanwhile change notices)).Repeats ⟨b, .meanwhile change notices⟩ ∧
      (a.next (.meanwhile change notices)).Matches R (b.next (.meanwhile change notices)) := by
  obtain ⟨waiting, hw⟩ := h.listening
  have hw' : b.session.mailbox = .listening waiting := h.mailbox.trans hw
  refine ⟨⟨rfl, ?_⟩, ⟨_, (Passage.meanwhile_mailbox _ hw change notices).1⟩, h.engine, ?_, ?_⟩
  · rw [Passage.exchanges_rested (p := ⟨a, _⟩) ⟨waiting, hw⟩ rfl,
      Passage.exchanges_rested (p := ⟨b, _⟩) ⟨waiting, hw'⟩ rfl]
  · exact (Passage.meanwhile_mailbox _ hw' change notices).1.trans
      (Passage.meanwhile_mailbox _ hw change notices).1.symm
  · change R (SoundEngine.meanwhile change notices a.session).2.host
      (SoundEngine.meanwhile change notices b.session).2.host
    rw [Passage.meanwhile_host, Passage.meanwhile_host]
    exact hchange _ _ h.host

/-- What is the same but for the past goes on in the same way. -/
theorem steps (h : a.Matches Eq b) (s : Step H) :
    (Passage.mk a s).Repeats ⟨b, s⟩ ∧ (a.next s).Matches Eq (b.next s) := by
  have hEq := H.resembles_eq
  cases s with
  | perform op => exact h.acts hEq.reportsAlike fun e n => act_twins hEq.respects e n op
  | meanwhile change notices => exact h.rests (fun _ _ hst => congrArg change hst) notices

/-- **Runs that go on in the same way**, as far as one looks. -/
theorem run (looked : Step H → Prop) {steps : List (Step H)}
    (hstep : ∀ s ∈ steps, ∀ {a b : Situation H}, a.Matches R b →
      (looked s → (Passage.mk a s).Repeats ⟨b, s⟩) ∧ (a.next s).Matches R (b.next s))
    (h : a.Matches R b) :
    List.Forall₂ (fun p q => looked p.step → p.Repeats q) (a.history steps) (b.history steps) ∧
      (a.after steps).Matches R (b.after steps) := by
  induction steps generalizing a b with
  | nil => exact ⟨.nil, h⟩
  | cons s rest ih =>
    obtain ⟨hs, hrest⟩ := List.forall_mem_cons.mp hstep
    obtain ⟨hrepeats, hnext⟩ := hs h
    obtain ⟨hlater, hend⟩ := ih hrest hnext
    exact ⟨.cons hrepeats hlater, hend⟩

end Situation.Matches

/-- The host keeps its context apart: a call about it reports nothing, and changes nothing that another
call could tell.  `R` relates the states that differ in the context alone. -/
structure Host.ContextApart (H : Host) (R : H.State → H.State → Prop) : Prop where
  equivalence : Equivalence R
  silent : ∀ c st, c.isContextual = true → (H.answer c st).2.1 = [] ∧ R st (H.answer c st).2.2
  respects : ∀ c, c.isContextual = false → H.Respects R c
  reports : ∀ c st st', c.isContextual = false → R st st' →
    (H.answer c st').2.1 = (H.answer c st).2.1

namespace Host.ContextApart

variable (hR : H.ContextApart R)

include hR

theorem reportsAlike : H.ReportsAlike R := by
  intro c st st' h
  cases hc : c.isContextual with
  | false => exact ⟨hR.reports c st st' hc h, (hR.respects c hc st st' h).2⟩
  | true =>
    obtain ⟨hnone, hst⟩ := hR.silent c st hc
    obtain ⟨hnone', hst'⟩ := hR.silent c st' hc
    refine ⟨hnone'.trans hnone.symm, ?_⟩
    exact hR.equivalence.trans (hR.equivalence.symm hst) (hR.equivalence.trans h hst')

theorem silent_calls {calls : List Call} (h : ∀ c ∈ calls, c.isContextual = true) (st : H.State) :
    H.reported st calls = [] ∧ R st (H.after st calls) := by
  induction calls generalizing st with
  | nil => exact ⟨rfl, hR.equivalence.refl st⟩
  | cons c cs ih =>
    obtain ⟨hc, hcs⟩ := List.forall_mem_cons.mp h
    obtain ⟨hnone, hst⟩ := hR.silent c st hc
    obtain ⟨hrest, hend⟩ := ih hcs (H.answer c st).2.2
    refine ⟨?_, hR.equivalence.trans hst hend⟩
    unfold Host.reported
    rw [hnone, hrest]
    rfl

/-- **An operation on the context leaves no trace in the situation.** -/
theorem contextual {now : Situation H} (hl : now.session.Listening) {op : Operation}
    (hop : op.isContextual = true) : now.Matches R (now.next (.perform op)) := by
  let p : Passage H := ⟨now, .perform op⟩
  obtain ⟨hengine, hcalls, hmailbox⟩ := Situation.contextual hl hop
  have hcontextual : ∀ c ∈ p.exchanges.map Exchange.call, c.isContextual = true :=
    List.forall_mem_map.mpr hcalls
  obtain ⟨hnone, hst⟩ := hR.silent_calls hcontextual now.session.host
  have harrivals : p.arrivals = [] := hnone
  obtain ⟨waiting, hw⟩ := hl
  refine ⟨⟨waiting, hw⟩, hengine, ?_, ?_⟩
  · change p.finish.session.mailbox = _
    rw [hmailbox, harrivals, hw, List.append_nil]
    rfl
  · change R _ p.finish.session.host
    rw [Passage.host_finish (p := p) ⟨waiting, hw⟩ rfl]
    exact hst

/-- A step of both runs, which shows the same unless it is an operation on the context. -/
theorem step {a b : Situation H} (h : a.Matches R b) {s : Step H} (hs : Step.Alike R s s) :
    (s.isContextual = false → (Passage.mk a s).Repeats ⟨b, s⟩) ∧ (a.next s).Matches R (b.next s) := by
  have hacts : ∀ op : Operation, (op.isContextual = false →
      (Passage.mk a (.perform op)).Repeats ⟨b, .perform op⟩) ∧
      (a.next (.perform op)).Matches R (b.next (.perform op)) := by
    intro op
    cases hop : op.isContextual with
    | false =>
      obtain ⟨hrepeats, hnext⟩ :=
        h.acts hR.reportsAlike fun e n => act_twins_apart hR.respects e n hop
      exact ⟨fun _ => hrepeats, hnext⟩
    | true =>
      have hleft := hR.contextual h.listening hop
      have hright := hR.contextual (h.symm hR.equivalence).listening hop
      refine ⟨fun hno => Bool.noConfusion hno, ?_⟩
      exact ((hleft.symm hR.equivalence).trans hR.equivalence h).trans hR.equivalence hright
  cases hs with
  | perform op => exact hacts op
  | stopAll order _ _ => exact hacts (.stopAll order)
  | meanwhile change notices hchange =>
    obtain ⟨hrepeats, hnext⟩ := h.rests hchange notices
    exact ⟨fun _ => hrepeats, hnext⟩

end Host.ContextApart

/-- **An unlock is no more than a rest**, in which the host changes and reports events: from there on,
every run is the same. -/
theorem Situation.unlock_rests {now : Situation H} (hl : now.session.Listening) (patience : Nat)
    (more : List (Step H)) :
    let p := now.unlock patience
    let rested := now.next (.meanwhile (fun _ => p.finish.session.host) p.arrivals)
    List.Forall₂ Passage.Repeats (rested.history more) (p.finish.history more) ∧
      (rested.after more).Matches Eq (p.finish.after more) := by
  intro p rested
  have hop : (Operation.unlock patience).isContextual = true := rfl
  obtain ⟨hengine, -, hmailbox⟩ := Situation.contextual hl hop
  obtain ⟨waiting, hw⟩ := hl
  have hrested : rested.session.mailbox = .listening (waiting ++ p.arrivals) :=
    (Passage.meanwhile_mailbox now.session hw (fun _ => p.finish.session.host) p.arrivals).1
  have hhost : rested.session.host = p.finish.session.host :=
    Passage.meanwhile_host now.session (fun _ => p.finish.session.host) p.arrivals
  rw [hw] at hmailbox
  have hstart : rested.Matches Eq p.finish :=
    ⟨⟨_, hrested⟩, hengine, hmailbox.trans hrested.symm, hhost⟩
  have hrun : List.Forall₂ (fun a b => True → Passage.Repeats a b) (rested.history more)
      (p.finish.history more) ∧ (rested.after more).Matches Eq (p.finish.after more) :=
    hstart.run (fun _ => True) fun s _ a b h => ⟨fun _ => (h.steps s).1, (h.steps s).2⟩
  exact ⟨hrun.1.imp fun a b hrepeats => hrepeats trivial, hrun.2⟩

/-- **An unlock tells what the context is, and touches nothing else.**  In every run on every host, with
whatever patience:

* without a context it does nothing, and tells that nothing runs;
* with a context that runs it looks at it again and does not ask it to resume; if the context is running,
  and not only said to be once, it tells so;
* otherwise it asks the context to resume, once.  However long the resumption is undecided and whatever
  it ends with, the unlock tells whether the context runs then; and so does a look right after it, if the
  context is in some state then.  If the patience is shorter, nothing is told.

It makes no call that is not about the context, it leaves the engine as it is, and the events that waited
wait on, in front of those that the host reported meanwhile.

For all that follows, it is as if the engine had rested while the host changed as it did.  And over a
host that keeps its context apart, it is as if nothing had happened: every later step that is not about
the context shows the same as without the unlock. -/
theorem unlock_tells_and_touches_nothing {patience : Nat} (hpatience : 0 < patience)
    (settings : Settings) (host : H.State) (steps : List (Step H)) :
    let now : Situation H := (Situation.opening settings host).after steps
    let p := now.unlock patience
    let st := now.session.host
    let asked := H.after st [.contextState, .resume]
    let rested := now.next (.meanwhile (fun _ => p.finish.session.host) p.arrivals)
    (now.engine.mixer.hasContext = false →
      p.finish = now ∧ p.exchanges = [] ∧ p.answer = some (.unlocked (some false)) ∧
        p.look.answer = p.answer) ∧
    (now.engine.mixer.hasContext = true → H.runs st = true →
      (∀ x ∈ p.exchanges, x.call = .contextState) ∧
      p.answer = some (.unlocked (some (H.runs (H.after st [.contextState])))) ∧
      (H.ContextIs st .running →
        p.answer = some (.unlocked (some true)) ∧ p.look.answer = p.answer)) ∧
    (now.engine.mixer.hasContext = true → H.runs st = false →
      (p.exchanges.map Exchange.call).count .resume = 1 ∧
      (∀ k result st', H.Resumes asked k result st' → k < patience →
        p.answer = some (.unlocked (some (H.runs st'))) ∧
          ∀ state, H.ContextIs st' state → p.look.answer = p.answer) ∧
      ((∀ k result st', H.Resumes asked k result st' → patience ≤ k) →
        p.answer = some (.unlocked none))) ∧
    (p.finish.engine = now.engine ∧ (∀ x ∈ p.exchanges, x.call.isContextual = true) ∧
      p.finish.session.mailbox = .listening (now.session.mailbox.waiting ++ p.arrivals)) ∧
    (∀ more, List.Forall₂ Passage.Repeats (rested.history more) (p.finish.history more) ∧
      (rested.after more).Matches Eq (p.finish.after more)) ∧
    ∀ R, H.ContextApart R → ∀ more, (∀ s ∈ more, Step.Alike R s s) →
      List.Forall₂ (fun without later => without.step.isContextual = false → without.Repeats later)
        (now.history more) (p.finish.history more) ∧
      (now.after more).Matches R (p.finish.after more) := by
  intro now p st asked rested
  have hl : now.session.Listening := after_listening (opening_listening settings host) steps
  refine ⟨Situation.unlock_noContext hl hpatience, Situation.unlock_running hl hpatience,
    Situation.unlock_resumes hl hpatience, Situation.contextual hl rfl,
    Situation.unlock_rests hl patience, fun R hR more hmore => ?_⟩
  -- all calls were about the context, so the host has changed in that alone
  have hunlocked : now.Matches R p.finish := hR.contextual hl rfl
  exact hunlocked.run (fun s => s.isContextual = false) fun s hs a b h => hR.step h (hmore s hs)

/-! ## 4. A stage -/

namespace Stage

/-- The stage with its context in another state. -/
def State.withContext (s : State) (context : ContextState) (waiting : Nat) : State :=
  { s with context, waiting }

/-- The two stages differ in the context alone. -/
def OffContext (s s' : State) : Prop := ∃ context waiting, s' = s.withContext context waiting

/-- A call that is not about the context is answered, and does what it does, without a look at it. -/
theorem answer_withContext {c : Call} (hc : c.isContextual = false) (s : State)
    (context : ContextState) (waiting : Nat) :
    host.answer c (s.withContext context waiting) =
      ((host.answer c s).1, (host.answer c s).2.1,
        State.withContext (host.answer c s).2.2 context waiting) := by
  cases hsource : c.source? with
  | some id =>
    obtain ⟨deed, hdeed, hlocal⟩ := answer_local hsource s
    have hstate : (host.answer c s).2.2 = deed s := congrArg (fun r => r.2.2) (hlocal s (.refl id s))
    rw [hlocal (s.withContext context waiting) ⟨rfl, rfl⟩, hstate]
    cases hdeed <;> rfl
  | none =>
    cases c with
    | contextState | resume | awaitResume => exact absurd hc.symm Bool.false_ne_true
    | createPanner pan =>
      simp only [host, State.withContext]
      split <;> rfl
    | createSource | sourceAddress | sourceVolume | isPaused | setVolume | setRate | setLooping
    | setPreload | play | pause | seek | wrapSource => cases hsource
    | _ => rfl

/-- **A stage keeps its context apart.** -/
theorem contextApart : host.ContextApart OffContext where
  equivalence := by
    refine ⟨fun s => ⟨s.context, s.waiting, rfl⟩, ?_, ?_⟩
    · rintro s _ ⟨context, waiting, rfl⟩
      exact ⟨s.context, s.waiting, rfl⟩
    · rintro s _ _ ⟨_, _, rfl⟩ ⟨context, waiting, rfl⟩
      exact ⟨context, waiting, rfl⟩
  silent := by
    intro c s hc
    cases c with
    | contextState => exact ⟨rfl, s.context, s.waiting, rfl⟩
    | resume => exact ⟨rfl, s.context, s.script.resumePolls, rfl⟩
    | awaitResume =>
      refine ⟨rfl, ?_⟩
      change OffContext s (awaitResume s).2
      unfold awaitResume
      split
      · exact ⟨s.context, _, rfl⟩
      · split
        · exact ⟨s.context, s.waiting, rfl⟩
        · exact ⟨s.script.resumeTo, s.waiting, rfl⟩
    | _ => exact absurd hc Bool.false_ne_true
  respects := by
    rintro c hc s _ ⟨context, waiting, rfl⟩
    have hanswer := answer_withContext hc s context waiting
    have hreply := congrArg Prod.fst hanswer
    have hnext := congrArg (fun r => r.2.2) hanswer
    exact ⟨hreply, context, waiting, hnext⟩
  reports := by
    rintro c s _ hc ⟨context, waiting, rfl⟩
    exact congrArg (fun r => r.2.1) (answer_withContext hc s context waiting)

/-- To look at the context of a stage does not change it. -/
theorem contextIs (s : State) : host.ContextIs s s.context := by
  have hafter : ∀ n, host.after s (List.replicate n .contextState) = s := by
    intro n
    induction n with
    | zero => rfl
    | succ n ih => exact ih
  intro n
  rw [hafter n]
  rfl

theorem runs_withContext (s : State) (context : ContextState) (waiting : Nat) :
    host.runs (s.withContext context waiting) = decide (context = .running) := rfl

/-- A resumption without a failure in the script is undecided as often as the script says, and leaves the
context as the script says. -/
theorem resumes (s : State) (h : s.script.resumeFailure = none) :
    host.Resumes (host.after s [.contextState, .resume]) s.script.resumePolls (.ok ())
      (s.withContext s.script.resumeTo 0) := by
  have hwait : ∀ n, host.Resumes (s.withContext s.context n) n (.ok ())
      (s.withContext s.script.resumeTo 0) := by
    intro n
    induction n with
    | succ n ih => exact .waits rfl ih
    | zero =>
      have hanswer : awaitResume (s.withContext s.context 0) =
          (some (.ok ()), s.withContext s.script.resumeTo 0) := by
        simp [awaitResume, State.withContext, h]
      have hreply : (host.answer .awaitResume (s.withContext s.context 0)).1 = some (.ok ()) :=
        congrArg Prod.fst hanswer
      have hstate : (host.answer .awaitResume (s.withContext s.context 0)).2.2 =
          s.withContext s.script.resumeTo 0 := congrArg Prod.snd hanswer
      rw [← hstate]
      exact .ends hreply
  exact hwait s.script.resumePolls

end Stage

/-- An event waits, and the context is asked to resume.  The resumption is undecided twice and succeeds,
but the context does not run. -/
theorem unlock_tells_and_touches_nothing_stage :
    let ends : Step Stage.host := .meanwhile (fun s => (Stage.finish s ⟨1⟩).1) [⟨⟨1⟩, .ended⟩]
    let steps : List (Step Stage.host) := [.perform (.playEffect { name := "chime" }), ends]
    let host : Stage.host.State := { script := { resumePolls := 2, resumeTo := .suspended } }
    let now : Situation Stage.host := (Situation.opening .standard host).after steps
    let p := now.unlock 3
    0 < 3 ∧ (p.exchanges.map Exchange.call).count .resume = 1 ∧
      p.answer = some (.unlocked (some false)) ∧ p.look.answer = p.answer ∧
      p.finish.engine = now.engine ∧
      p.finish.session.mailbox = .listening [⟨⟨1⟩, .ended⟩] ∧
      (Passage.mk now (.perform .drain)).answer = some (.drained 1) ∧
      (Passage.mk now (.perform .drain)).Repeats ⟨p.finish, .perform .drain⟩ := by
  intro ends steps host now p
  have hcontext : now.engine.mixer.hasContext = true := by decide +kernel
  have hruns : Stage.host.runs now.session.host = false := by decide +kernel
  have hmailbox : now.session.mailbox = .listening [⟨⟨1⟩, .ended⟩] := by decide +kernel
  have hpolls : (Stage.State.script now.session.host).resumePolls = 2 := by decide +kernel
  have hfailure : (Stage.State.script now.session.host).resumeFailure = none := by decide +kernel
  have hto : (Stage.State.script now.session.host).resumeTo = .suspended := by decide +kernel
  have harrivals : p.arrivals = [] := by decide +kernel
  have hwaiting : Mailbox.listening (now.session.mailbox.waiting ++ p.arrivals) =
      .listening [⟨⟨1⟩, .ended⟩] := by
    rw [hmailbox, harrivals]
    rfl
  have hdrained : (Passage.mk now (.perform .drain)).answer = some (.drained 1) := by decide +kernel
  have hlaw :=
    unlock_tells_and_touches_nothing (H := Stage.host) (by decide : 0 < 3) .standard host steps
  have hnow : (Situation.opening .standard host : Situation Stage.host).after steps = now := rfl
  dsimp only at hlaw
  rw [hnow] at hlaw
  -- what is known of the situation is enough from here on
  clear_value now
  obtain ⟨-, -, hsuspended, ⟨hengine, -, hqueue⟩, -, hapart⟩ := hlaw
  obtain ⟨honce, hresumed, -⟩ := hsuspended hcontext hruns
  obtain ⟨hlater, -⟩ := hapart Stage.OffContext Stage.contextApart [.perform .drain] (by
    simpa using Step.Alike.perform .drain)
  have hresumes := Stage.resumes now.session.host hfailure
  rw [hpolls, hto] at hresumes
  obtain ⟨hanswer, hlook⟩ := hresumed 2 (.ok ()) _ hresumes (by decide)
  have hsuspends := Stage.runs_withContext now.session.host .suspended 0
  rw [hsuspends] at hanswer
  exact ⟨by decide, honce, hanswer, hlook _ (Stage.contextIs _), hengine,
    hqueue.trans hwaiting, hdrained, (List.forall₂_cons.mp hlater).1 rfl⟩

end SoundEngine
