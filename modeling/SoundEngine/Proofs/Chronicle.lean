import SoundEngine.Playback.Run

/-!
# What an action leaves in the chronicle

Nothing is known of a host, so all that can be said of an action of the engine is which calls it
makes, in which order, and how it goes on after each answer.  This module fixes how that is said.

* §1 reads the EXCHANGES -- calls with their answers -- off a list of entries.
* §2 is the relation `Session.Unfolds`: a session goes over into a later one by making the calls
  and the records of a list of entries.  What it says about the mailbox is the law of event
  delivery: whatever the host reports during the calls waits behind what waits already
  (`Unfolds.mailbox`).
* §3 is the calculus.  `Leaves m P` says that from every session, over every host, `m` unfolds the
  session by entries that stand in the relation `P` to its result.  One rule for each way of
  building an action (`leaves_pure`, `leaves_ask`, `leaves_log`, `leaves_bind`) is all that the
  functions of the engine need.
-/

namespace SoundEngine

variable {H : Host} {α β : Type}

/-! ## 1. Exchanges -/

/-- A call with its answer. -/
structure Exchange where
  call : Call
  reply : call.Reply

/-- The exchange that an entry is, if it is one. -/
def Entry.exchange? : Entry → Option Exchange
  | .exchange call reply => some ⟨call, reply⟩
  | .record _ => none

/-- The exchanges among some entries, in their order. -/
def exchangesOf (entries : List Entry) : List Exchange := entries.filterMap Entry.exchange?

@[simp] theorem exchangesOf_nil : exchangesOf [] = [] := rfl

@[simp] theorem exchangesOf_cons_exchange (call : Call) (reply : call.Reply) (L : List Entry) :
    exchangesOf (.exchange call reply :: L) = ⟨call, reply⟩ :: exchangesOf L := rfl

@[simp] theorem exchangesOf_cons_record (r : Record) (L : List Entry) :
    exchangesOf (.record r :: L) = exchangesOf L := rfl

@[simp] theorem exchangesOf_append (L K : List Entry) :
    exchangesOf (L ++ K) = exchangesOf L ++ exchangesOf K := by
  simp [exchangesOf]

/-- The exchanges of a session are its calls, with the answers. -/
theorem calls_eq_map_exchangesOf (s : Session H) :
    s.calls = (exchangesOf s.chronicle).map Exchange.call := by
  unfold Session.calls exchangesOf
  rw [List.map_filterMap]
  congr 1
  funext e
  cases e <;> rfl

/-- The state of a host after some calls. -/
def Host.after (H : Host) (host : H.State) (calls : List Call) : H.State :=
  calls.foldl (fun st c => (H.answer c st).2.2) host

/-- The events that a host reports with its answers to some calls. -/
def Host.reported (H : Host) (host : H.State) : List Call → List Notice
  | [] => []
  | c :: cs => (H.answer c host).2.1 ++ H.reported (H.answer c host).2.2 cs

theorem after_append_calls (st : H.State) (A B : List Call) :
    H.after st (A ++ B) = H.after (H.after st A) B :=
  List.foldl_append

theorem reported_append (st : H.State) (A B : List Call) :
    H.reported st (A ++ B) = H.reported st A ++ H.reported (H.after st A) B := by
  induction A generalizing st with
  | nil => rfl
  | cons c A ih =>
    change (H.answer c st).2.1 ++ H.reported (H.answer c st).2.2 (A ++ B) = _
    rw [ih, ← List.append_assoc]
    rfl

/-! ## 2. How a session unfolds -/

/-- A session goes over into another one: it makes the calls of the entries, each answered by the
host as it stands then, and leaves the records. -/
inductive Session.Unfolds : Session H → List Entry → Session H → Prop
  | refl (s : Session H) : Unfolds s [] s
  | ask {s s' : Session H} {L : List Entry} (c : Call) :
      Unfolds (ask c s).2 L s' → Unfolds s (.exchange c (ask c s).1 :: L) s'
  | log {s s' : Session H} {L : List Entry} (r : Record) :
      Unfolds (log r s).2 L s' → Unfolds s (.record r :: L) s'

namespace Session

/-- Events still reach the engine. -/
def Listening (s : Session H) : Prop := ∃ waiting, s.mailbox = .listening waiting

theorem fresh_listening (host : H.State) : (fresh host : Session H).Listening := ⟨[], rfl⟩

theorem Unfolds.trans {s t u : Session H} {L K : List Entry} (h : s.Unfolds L t)
    (h' : t.Unfolds K u) : s.Unfolds (L ++ K) u := by
  induction h with
  | refl s => exact h'
  | ask c _ ih => exact .ask c (ih h')
  | log r _ ih => exact .log r (ih h')

theorem ask_host (c : Call) (s : Session H) :
    (ask c s).2.host = (H.answer c s.host).2.2 := by
  simp only [ask, deliver]
  split <;> rfl

/-- The host goes through its own states, call by call. -/
theorem Unfolds.host {s t : Session H} {L : List Entry} (h : s.Unfolds L t) :
    t.host = H.after s.host ((exchangesOf L).map Exchange.call) := by
  induction h with
  | refl s => rfl
  | @ask s t L c _ ih =>
    rw [ih, ask_host]
    rfl
  | log r _ ih => exact ih

/-- Every exchange is an answer of the host in one of its states. -/
theorem Unfolds.answered {s t : Session H} {L : List Entry} (h : s.Unfolds L t) :
    ∀ x ∈ exchangesOf L, ∃ st, x.reply = (H.answer x.call st).1 := by
  induction h with
  | refl s => simp
  | @ask s t L c _ ih => exact List.forall_mem_cons.mpr ⟨⟨s.host, rfl⟩, ih⟩
  | log r _ ih => exact ih

/-- **Events are never lost and never jump the queue.**  While calls are made, the mailbox only
grows, at its end, by what the host reports. -/
theorem Unfolds.mailbox {s t : Session H} {L : List Entry} (h : s.Unfolds L t) :
    ∀ {waiting}, s.mailbox = .listening waiting →
      t.mailbox = .listening
        (waiting ++ H.reported s.host ((exchangesOf L).map Exchange.call)) := by
  induction h with
  | refl s =>
    intro waiting hw
    simpa [Host.reported] using hw
  | @ask s t L c _ ih =>
    intro waiting hw
    have hs : (SoundEngine.ask c s).2.mailbox =
        .listening (waiting ++ (H.answer c s.host).2.1) := by
      simp [SoundEngine.ask, deliver, note, hw]
    rw [ih hs, ask_host, List.append_assoc]
    rfl
  | log r _ ih => exact ih

theorem Unfolds.listening {s t : Session H} {L : List Entry} (h : s.Unfolds L t)
    (hs : s.Listening) : t.Listening := by
  obtain ⟨waiting, hw⟩ := hs
  exact ⟨_, h.mailbox hw⟩

/-- The entries are what the chronicle gains. -/
theorem Unfolds.chronicle {s t : Session H} {L : List Entry} (h : s.Unfolds L t)
    (hs : s.Listening) : t.chronicle = s.chronicle ++ L := by
  induction h with
  | refl s => simp
  | @ask s t L c _ ih =>
    obtain ⟨waiting, hw⟩ := hs
    have hc : (SoundEngine.ask c s).2.chronicle
        = s.chronicle ++ [.exchange c (SoundEngine.ask c s).1] := by
      simp [SoundEngine.ask, deliver, note, hw]
    have hl : (SoundEngine.ask c s).2.Listening :=
      ⟨waiting ++ (H.answer c s.host).2.1, by simp [SoundEngine.ask, deliver, note, hw]⟩
    rw [ih hl, hc, List.append_assoc]
    rfl
  | @log s t L r _ ih =>
    have hc : (SoundEngine.log r s).2.chronicle = s.chronicle ++ [.record r] := rfl
    rw [ih hs, hc, List.append_assoc]
    rfl

end Session

/-! ## 3. The calculus -/

/-- From every session, the action leaves entries that stand in the relation `P` to its result, and the
session goes over into the one that these entries lead to.  This is the form in which the conduct of every
function is stated: `P` is the conduct, and says which entries can come with which result. -/
def Leaves (m : HostM H α) (P : α → List Entry → Prop) : Prop :=
  ∀ s, ∃ L, s.Unfolds L (m s).2 ∧ P (m s).1 L

theorem leaves_pure {a : α} {P : α → List Entry → Prop} (h : P a []) :
    Leaves (pure a : HostM H α) P :=
  fun s => ⟨[], .refl s, h⟩

theorem leaves_ask {c : Call} {f : c.Reply → HostM H β} {P : β → List Entry → Prop}
    (h : ∀ reply, Leaves (f reply) fun b L => P b (.exchange c reply :: L)) :
    Leaves (ask c >>= f) P := by
  intro s
  obtain ⟨L, hL, hP⟩ := h (ask c s).1 (ask c s).2
  exact ⟨_, .ask c hL, hP⟩

theorem leaves_log {r : Record} {f : PUnit → HostM H β} {P : β → List Entry → Prop}
    (h : Leaves (f ⟨⟩) fun b L => P b (.record r :: L)) : Leaves (log r >>= f) P := by
  intro s
  obtain ⟨L, hL, hP⟩ := h (log r s).2
  exact ⟨_, .log r hL, hP⟩

theorem leaves_bind {m : HostM H α} {f : α → HostM H β} {P : α → List Entry → Prop}
    {Q : β → List Entry → Prop} (h : Leaves m P)
    (k : ∀ a L, P a L → Leaves (f a) fun b K => Q b (L ++ K)) : Leaves (m >>= f) Q := by
  intro s
  obtain ⟨L, hL, hP⟩ := h s
  obtain ⟨K, hK, hQ⟩ := k (m s).1 L hP (m s).2
  exact ⟨L ++ K, hL.trans hK, hQ⟩

theorem leaves_mono {m : HostM H α} {P Q : α → List Entry → Prop} (h : Leaves m P)
    (k : ∀ a L, P a L → Q a L) : Leaves m Q := by
  intro s
  obtain ⟨L, hL, hP⟩ := h s
  exact ⟨L, hL, k _ _ hP⟩

theorem leaves_map {m : HostM H α} {f : α → β} {Q : β → List Entry → Prop}
    (h : Leaves m fun a L => Q (f a) L) : Leaves (f <$> m) Q :=
  fun s => h s

/-- A call at the end of an action. -/
theorem leaves_ask_last {c : Call} {P : c.Reply → List Entry → Prop}
    (h : ∀ reply, P reply [.exchange c reply]) : Leaves (ask c : HostM H c.Reply) P :=
  fun _ => ⟨_, .ask c (.refl _), h _⟩

/-- A record at the end of an action. -/
theorem leaves_log_last {r : Record} {P : Unit → List Entry → Prop} (h : P () [.record r]) :
    Leaves (log r : HostM H Unit) P :=
  fun _ => ⟨_, .log r (.refl _), h⟩

/-- A step of a chain: if it fails, the chain fails with it. -/
theorem leaves_try {ε : Type} {m : HostM H (Except ε α)} {f : α → ExceptT ε (HostM H) β}
    {Q : Except ε β → List Entry → Prop}
    (h : Leaves m fun reply L => match reply with
      | .error failure => Q (.error failure) L
      | .ok a => Leaves (f a).run fun b K => Q b (L ++ K)) :
    Leaves (ExceptT.mk m >>= f).run Q := by
  change Leaves (m >>= ExceptT.bindCont f) Q
  refine leaves_bind h fun reply L hL => ?_
  cases reply with
  | error failure => exact leaves_pure (by simpa using hL)
  | ok a => exact hL

/-- A step of a chain that cannot fail. -/
theorem leaves_lift {ε : Type} {m : HostM H α} {f : α → ExceptT ε (HostM H) β}
    {Q : Except ε β → List Entry → Prop}
    (h : Leaves m fun a L => Leaves (f a).run fun b K => Q b (L ++ K)) :
    Leaves ((liftM m : ExceptT ε (HostM H) α) >>= f).run Q := by
  change Leaves (m >>= fun a => (f a).run) Q
  exact leaves_bind h fun _ _ hL => hL

end SoundEngine
