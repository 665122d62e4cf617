import SoundEngine.Proofs.Conduct

/-!
# The history of a run

A statement about a run speaks of its steps one by one: what an operation found, what it took out of
the mailbox, which calls it made, what it answered and what it left behind.  A PASSAGE is a step
with the situation it starts from, and everything else about it is a function of these two; the
HISTORY of a run is the list of its passages.

* §1 defines both and ties them to `Engine.run` (`run_eq_history`).
* §2 opens a passage: it is the conduct of its operation (`Passage.performed`), and the mailbox
  after it holds what the operation left there, followed by what the host reported meanwhile.
* §3 puts the chronicle of a whole run together from its passages (`chronicle_eq`).
-/

namespace SoundEngine

variable {H : Host}

/-! ## 1. Situations, passages, histories -/

/-- An engine and the session it works in. -/
structure Situation (H : Host) where
  engine : Engine
  session : Session H

namespace Situation

/-- Where a run begins: an engine is built over a host in which nothing has happened yet.  To build it may
make calls, which are in the chronicle, but takes no step. -/
def opening (settings : Settings) (host : H.State) : Situation H :=
  let built := Engine.build settings (Session.fresh host)
  ⟨built.1, built.2⟩

/-- The situation after one more step. -/
def next (now : Situation H) (step : Step H) : Situation H :=
  let taken := now.engine.step step now.session
  ⟨taken.1.2, taken.2⟩

/-- The situation after some more steps. -/
def after (now : Situation H) (steps : List (Step H)) : Situation H := steps.foldl next now

end Situation

/-- A step, with the situation it is taken in. -/
structure Passage (H : Host) where
  start : Situation H
  step : Step H

namespace Passage

/-- The situation that the step leads to. -/
def finish (p : Passage H) : Situation H := p.start.next p.step

/-- The answer of the operation, if the step is one.  A step in which the host rests has none. -/
def answer (p : Passage H) : Option Answer := (p.start.engine.step p.step p.start.session).1.1

/-- The events that the step takes out of the mailbox.  All of them have come in before it. -/
def consumed (p : Passage H) : List Notice :=
  match p.step with
  | .perform operation => Conduct.consumed operation p.start.session
  | .meanwhile _ _ => []

/-- What the step adds to the chronicle. -/
def entries (p : Passage H) : List Entry :=
  p.finish.session.chronicle.drop p.start.session.chronicle.length

/-- The calls that the step makes, with their answers. -/
def exchanges (p : Passage H) : List Exchange := exchangesOf p.entries

/-- The events that the host reports during the step: with its answers to the calls of an operation, or of
its own while the engine rests.  They wait for a later step to take them. -/
def arrivals (p : Passage H) : List Notice :=
  match p.step with
  | .perform _ => H.reported p.start.session.host (p.exchanges.map Exchange.call)
  | .meanwhile _ notices => notices

end Passage

/-- The passages of a run, one for each of its steps: every passage starts in the situation that the one
before it has led to. -/
def Situation.history : Situation H → List (Step H) → List (Passage H)
  | _, [] => []
  | now, step :: rest => ⟨now, step⟩ :: (now.next step).history rest

/-- **The history is that of the run.**  A run answers what its passages answer, and ends in the
situation that they lead to. -/
theorem run_eq_history (now : Situation H) (steps : List (Step H)) :
    now.engine.run steps now.session =
      (((now.history steps).map Passage.answer, (now.after steps).engine),
        (now.after steps).session) := by
  induction steps generalizing now with
  | nil => rfl
  | cons step rest ih =>
    have hrun : now.engine.run (step :: rest) now.session =
        let later := (now.next step).engine.run rest (now.next step).session
        ((Passage.answer ⟨now, step⟩ :: later.1.1, later.1.2), later.2) := rfl
    rw [hrun, ih]
    rfl

theorem history_append (now : Situation H) (steps more : List (Step H)) :
    now.history (steps ++ more) = now.history steps ++ (now.after steps).history more := by
  induction steps generalizing now with
  | nil => rfl
  | cons step rest ih =>
    simp only [List.cons_append, Situation.history, ih]
    rfl

theorem history_snoc (now : Situation H) (steps : List (Step H)) (step : Step H) :
    now.history (steps ++ [step]) = now.history steps ++ [⟨now.after steps, step⟩] :=
  history_append now steps [step]

theorem after_append (now : Situation H) (steps more : List (Step H)) :
    now.after (steps ++ more) = (now.after steps).after more :=
  List.foldl_append

theorem after_snoc (now : Situation H) (steps : List (Step H)) (step : Step H) :
    now.after (steps ++ [step]) = (Passage.mk (now.after steps) step).finish :=
  after_append now steps [step]

/-- A cut through a history is a cut through the steps of the run. -/
theorem history_split {now : Situation H} {steps : List (Step H)} {before later : List (Passage H)}
    {p : Passage H} (h : now.history steps = before ++ p :: later) :
    ∃ most rest, steps = most ++ p.step :: rest ∧ before = now.history most ∧
      p.start = now.after most ∧ later = p.finish.history rest := by
  induction before generalizing now steps with
  | nil =>
    cases steps with
    | nil => exact absurd h (by simp [Situation.history])
    | cons step rest =>
      obtain ⟨rfl, rfl⟩ := List.cons.inj h
      exact ⟨[], rest, rfl, rfl, rfl, rfl⟩
  | cons q before ih =>
    cases steps with
    | nil => exact absurd h (by simp [Situation.history])
    | cons step rest =>
      obtain ⟨rfl, htail⟩ := List.cons.inj h
      obtain ⟨most, more, rfl, rfl, hs, rfl⟩ := ih htail
      exact ⟨step :: most, more, rfl, rfl, hs, rfl⟩

/-- A passage of a run starts where the steps before it have led. -/
theorem mem_history {now : Situation H} {steps : List (Step H)} {p : Passage H}
    (hp : p ∈ now.history steps) :
    ∃ before rest, steps = before ++ p.step :: rest ∧ p.start = now.after before := by
  obtain ⟨before, later, h⟩ := List.append_of_mem hp
  obtain ⟨most, rest, hsteps, -, hs, -⟩ := history_split h
  exact ⟨most, rest, hsteps, hs⟩

/-! ## 2. A passage, opened -/

namespace Passage

open Conduct

section Performed

variable {now : Situation H} {operation : Operation} {taken : (Answer × Engine) × Session H}

/-- What is known of the run of an operation is known of the passage that performs it. -/
theorem answer_of_perform (h : now.engine.perform operation now.session = taken) :
    (Passage.mk now (.perform operation)).answer = some taken.1.1 := by
  subst h
  rfl

theorem finish_of_perform (h : now.engine.perform operation now.session = taken) :
    (Passage.mk now (.perform operation)).finish = ⟨taken.1.2, taken.2⟩ := by
  subst h
  rfl

end Performed

/-- A passage that rests leaves the engine alone. -/
theorem rested {p : Passage H} {change : H.State → H.State} {notices : List Notice}
    (h : p.step = .meanwhile change notices) :
    p.answer = none ∧ p.finish.engine = p.start.engine ∧
      p.finish.session = (SoundEngine.meanwhile change notices p.start.session).2 := by
  unfold answer finish Situation.next
  rw [h]
  exact ⟨rfl, rfl, rfl⟩

theorem meanwhile_mailbox (s : Session H) {waiting : List Notice}
    (hs : s.mailbox = .listening waiting) (change : H.State → H.State) (notices : List Notice) :
    (SoundEngine.meanwhile change notices s).2.mailbox = .listening (waiting ++ notices) ∧
      (SoundEngine.meanwhile change notices s).2.chronicle = s.chronicle := by
  change ({ s with host := change s.host }.deliver notices).mailbox = _ ∧
    ({ s with host := change s.host }.deliver notices).chronicle = _
  unfold Session.deliver
  simp [hs]

theorem meanwhile_host (s : Session H) (change : H.State → H.State) (notices : List Notice) :
    (SoundEngine.meanwhile change notices s).2.host = change s.host := by
  change ({ s with host := change s.host }.deliver notices).host = _
  unfold Session.deliver
  split <;> rfl

/-- **A passage that performs an operation follows its conduct.** -/
theorem performed {p : Passage H} (hl : p.start.session.Listening) {operation : Operation}
    (h : p.step = .perform operation) :
    ∃ answer L, p.answer = some answer ∧
      p.entries = farewells p.start.engine.effects p.consumed ++ L ∧
      (if drains operation then emptied p.start.session else p.start.session).Unfolds
        p.entries p.finish.session ∧
      Acts p.consumed (heeded p.start.engine p.consumed) operation
        (answer, p.finish.engine) L := by
  obtain ⟨⟨e, s⟩, step⟩ := p
  change step = .perform operation at h
  subst h
  obtain ⟨L, hL, hA⟩ := perform_conduct e operation hl
  have hent : (Passage.mk ⟨e, s⟩ (.perform operation)).entries
      = farewells e.effects (Conduct.consumed operation s) ++ L := by
    have hl' : (if drains operation then emptied s else s).Listening := by
      split
      · exact ⟨[], rfl⟩
      · exact hl
    have hc : (if drains operation then emptied s else s).chronicle = s.chronicle := by
      split <;> rfl
    have hch := hL.chronicle hl'
    rw [hc] at hch
    change List.drop s.chronicle.length (e.perform operation s).2.chronicle = _
    rw [hch, List.drop_left]
  exact ⟨(e.perform operation s).1.1, L, rfl, hent, by rw [hent]; exact hL, hA⟩

/-- The exchanges of a passage are those of what it does after it has drained. -/
theorem acted {p : Passage H} (hl : p.start.session.Listening) {operation : Operation}
    (h : p.step = .perform operation) :
    ∃ answer L, p.answer = some answer ∧ p.exchanges = exchangesOf L ∧
      Acts p.consumed (heeded p.start.engine p.consumed) operation
        (answer, p.finish.engine) L := by
  obtain ⟨answer, L, ha, hent, -, hA⟩ := performed hl h
  refine ⟨answer, L, ha, ?_, hA⟩
  unfold exchanges
  rw [hent, exchangesOf_append, exchangesOf_farewells, List.nil_append]

/-- The host goes through the calls of the passage. -/
theorem host_finish {p : Passage H} (hl : p.start.session.Listening) {operation : Operation}
    (h : p.step = .perform operation) :
    p.finish.session.host = H.after p.start.session.host (p.exchanges.map Exchange.call) := by
  obtain ⟨answer, L, -, -, hU, -⟩ := performed hl h
  have hhost := hU.host
  rw [hhost]
  unfold exchanges
  split <;> rfl

/-- Resting adds nothing to the chronicle. -/
theorem entries_rested {p : Passage H} (hl : p.start.session.Listening)
    {change : H.State → H.State} {notices : List Notice}
    (h : p.step = .meanwhile change notices) : p.entries = [] := by
  obtain ⟨waiting, hw⟩ := hl
  unfold entries
  rw [(rested h).2.2, (meanwhile_mailbox _ hw change notices).2, List.drop_length]

theorem exchanges_rested {p : Passage H} (hl : p.start.session.Listening)
    {change : H.State → H.State} {notices : List Notice}
    (h : p.step = .meanwhile change notices) : p.exchanges = [] := by
  unfold exchanges
  rw [entries_rested hl h]
  rfl

theorem consumed_rested {p : Passage H} {change : H.State → H.State} {notices : List Notice}
    (h : p.step = .meanwhile change notices) : p.consumed = [] := by
  unfold consumed
  rw [h]

/-- **What waits after a step** is what it did not consume, followed by what the host reported. -/
theorem waiting_finish {p : Passage H} (hl : p.start.session.Listening) :
    p.finish.session.mailbox = .listening
      ((p.start.session.mailbox.waiting.drop p.consumed.length) ++ p.arrivals) := by
  obtain ⟨waiting, hw⟩ := hl
  cases hstep : p.step with
  | meanwhile change notices =>
    have hc := consumed_rested hstep
    have ha : p.arrivals = notices := by unfold arrivals; rw [hstep]
    rw [(rested hstep).2.2, (meanwhile_mailbox _ hw change notices).1, hc, ha, hw]
    rfl
  | perform operation =>
    obtain ⟨answer, L, -, -, hU, -⟩ := performed ⟨waiting, hw⟩ hstep
    have ha : p.arrivals = H.reported p.start.session.host (p.exchanges.map Exchange.call) := by
      unfold arrivals; rw [hstep]
    have hc : p.consumed = Conduct.consumed operation p.start.session := by
      unfold consumed; rw [hstep]
    rw [ha, hc]
    unfold Conduct.consumed
    by_cases hd : drains operation = true
    · rw [if_pos hd] at hU ⊢
      have hempty : (emptied p.start.session).mailbox = .listening [] := rfl
      have hm := hU.mailbox hempty
      rw [hm, hw]
      simp only [Mailbox.waiting, List.drop_length]
      rfl
    · rw [if_neg hd] at hU ⊢
      rw [hU.mailbox hw, hw]
      rfl

/-- Every exchange of a passage is an answer of the host. -/
theorem answered {p : Passage H} (hl : p.start.session.Listening) :
    ∀ x ∈ p.exchanges, ∃ st, x.reply = (H.answer x.call st).1 := by
  cases hstep : p.step with
  | meanwhile change notices =>
    rw [exchanges_rested hl hstep]
    simp
  | perform operation =>
    obtain ⟨answer, L, -, -, hU, -⟩ := performed hl hstep
    exact hU.answered

theorem finish_listening {p : Passage H} (hl : p.start.session.Listening) :
    p.finish.session.Listening :=
  ⟨_, waiting_finish hl⟩

/-- The chronicle grows by the entries of the passage. -/
theorem chronicle_finish {p : Passage H} (hl : p.start.session.Listening) :
    p.finish.session.chronicle = p.start.session.chronicle ++ p.entries := by
  cases hstep : p.step with
  | meanwhile change notices =>
    obtain ⟨waiting, hw⟩ := hl
    rw [(rested hstep).2.2, (meanwhile_mailbox _ hw change notices).2,
      entries_rested ⟨waiting, hw⟩ hstep, List.append_nil]
  | perform operation =>
    obtain ⟨answer, L, -, -, hU, -⟩ := performed hl hstep
    have hl' : (if drains operation then emptied p.start.session else p.start.session).Listening := by
      split
      · exact ⟨[], rfl⟩
      · exact hl
    rw [hU.chronicle hl']
    split <;> rfl

end Passage

/-! ## 3. The whole chronicle -/

/-- All that is in the chronicle at the beginning is the building of the engine. -/
theorem opening_unfolds (settings : Settings) (host : H.State) :
    let start : Situation H := .opening settings host
    (Session.fresh host).Unfolds start.session.chronicle start.session ∧
      Conduct.Building settings start.engine start.session.chronicle := by
  intro start
  obtain ⟨L, hL, hB⟩ := Conduct.build_conduct settings (Session.fresh host)
  have hchronicle : start.session.chronicle = L := hL.chronicle (Session.fresh_listening host)
  rw [hchronicle]
  exact ⟨hL, hB⟩

/-- An engine that was just built has given out no number, tracks nothing and plays nothing. -/
theorem opening_engine (settings : Settings) (host : H.State) :
    ∃ page mixer, (Situation.opening settings host : Situation H).engine =
      ⟨settings, page, {}, mixer, [], none⟩ := by
  have hB := (opening_unfolds settings host).2
  generalize (Situation.opening settings host).engine = e,
    (Situation.opening settings host).session.chronicle = L at hB ⊢
  cases hB with
  | unrouted page => exact ⟨page, _, rfl⟩
  | routed page => exact ⟨page, _, rfl⟩

theorem opening_listening (settings : Settings) (host : H.State) :
    (Situation.opening settings host : Situation H).session.Listening :=
  (opening_unfolds settings host).1.listening (Session.fresh_listening host)

theorem after_listening {now : Situation H} (hl : now.session.Listening) (steps : List (Step H)) :
    (now.after steps).session.Listening := by
  induction steps generalizing now with
  | nil => exact hl
  | cons step rest ih => exact ih (Passage.finish_listening (p := ⟨now, step⟩) hl)

theorem listening_of_mem_history {now : Situation H} (hl : now.session.Listening)
    {steps : List (Step H)} {p : Passage H} (hp : p ∈ now.history steps) :
    p.start.session.Listening := by
  obtain ⟨before, rest, -, hs⟩ := mem_history hp
  rw [hs]
  exact after_listening hl before

/-- The chronicle of a run is what was there before, and then passage by passage. -/
theorem chronicle_eq {now : Situation H} (hl : now.session.Listening) (steps : List (Step H)) :
    (now.after steps).session.chronicle =
      now.session.chronicle ++ (now.history steps).flatMap Passage.entries := by
  induction steps generalizing now with
  | nil => simp [Situation.after, Situation.history]
  | cons step rest ih =>
    have h := ih (Passage.finish_listening (p := ⟨now, step⟩) hl)
    have hc := Passage.chronicle_finish (p := ⟨now, step⟩) hl
    change (((now.next step).after rest)).session.chronicle = _
    rw [show now.next step = (Passage.mk now step).finish from rfl, h, hc]
    simp [Situation.history, Passage.finish]

theorem exchangesOf_flatMap {α : Type} (l : List α) (f : α → List Entry) :
    exchangesOf (l.flatMap f) = l.flatMap fun a => exchangesOf (f a) := by
  induction l with
  | nil => rfl
  | cons a l ih => rw [List.flatMap_cons, exchangesOf_append, ih, List.flatMap_cons]

/-- The exchanges of a run are those from before, and then passage by passage. -/
theorem trace_eq {now : Situation H} (hl : now.session.Listening) (steps : List (Step H)) :
    exchangesOf (now.after steps).session.chronicle =
      exchangesOf now.session.chronicle ++ (now.history steps).flatMap Passage.exchanges := by
  rw [chronicle_eq hl, exchangesOf_append, exchangesOf_flatMap]
  rfl

/-- Every exchange of a run is an answer of the host. -/
theorem trace_answered (settings : Settings) (host : H.State) (steps : List (Step H)) :
    let start : Situation H := .opening settings host
    ∀ x ∈ exchangesOf (start.after steps).session.chronicle,
      ∃ st, x.reply = (H.answer x.call st).1 := by
  intro start
  have hl : start.session.Listening := opening_listening settings host
  rw [trace_eq hl]
  refine List.forall_mem_append.mpr ⟨(opening_unfolds settings host).1.answered, fun x hx => ?_⟩
  obtain ⟨p, hp, hx⟩ := List.mem_flatMap.mp hx
  exact Passage.answered (listening_of_mem_history hl hp) x hx

end SoundEngine
