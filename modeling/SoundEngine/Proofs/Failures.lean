import SoundEngine.Proofs.FetchModes

/-!
# Failures and the log

The engine never stops at a failure: it goes on, and makes a record.  Whether it makes one for each
failure, and no more, cannot be seen from the records.  So the failures are told here from the other side,
by what the host answered (`failures`), and compared with the log.

Most failures are answers of their own.  Two are not: that a source is left out of the graph because its
bus is not live, or because it is from elsewhere, is nothing that a call reports.  Both are settled when
the last level of a source has been set, from what the host has said about the buses and the page, and
from the address that it tells next (`declined`).

* §1 reads the failures off a trace, and §2 off the log.
* §3 goes through the conduct of the engine: each part of it records what fails in it (`Accounted`).
* §4 says what an operation has to do, piece by piece.  A piece that fails leaves out what depends on it
  and nothing else, so the pieces do not depend on what fails, but for the building of a source.
* §5 puts both together for whole runs (`failures_recorded`).
-/

namespace SoundEngine

variable {H : Host}

/-! ## 1. Failures in a trace -/

/-- What can fail, with the error of the host or the reason of the engine. -/
inductive Failure where
  | noContext
  | busMissing (bus : BusKind) (failure : GraphFailure)
  | notCreated (failure : PlaybackFailure)
  | unrouted (reason : DirectReason)
  | notStarted (failure : PlaybackFailure)
  | notHalted (failure : PlaybackFailure)
  | notResumed (failure : ContextFailure)
deriving DecidableEq

/-- The error or the reason of a failure, as it is told. -/
def Failure.words : Failure → String
  | .noContext => "No audio processing context"
  | .busMissing _ failure => failure.message
  | .notCreated failure | .notStarted failure | .notHalted failure => failure.message
  | .unrouted reason => reason.form
  | .notResumed failure => failure.message

/-- What the host has told about the page and the buses. -/
structure Surroundings where
  page : Option Url
  live : BusKind → Bool

/-- The error of an answer, if it is one. -/
def refusals {ε α : Type} : Except ε α → List ε
  | .ok _ => []
  | .error failure => [failure]

/-- The address that is told for a source next. -/
def addressOf? (id : SourceId) (later : List Exchange) : Option String :=
  later.findSome? fun
    | ⟨.sourceAddress i, address⟩ => if i = id then some address else none
    | _ => none

/-- Why a source is not brought into the graph at all, if it is not: because its bus has no node, or
because the address that it tells is on another site. -/
def Surroundings.declined (w : Surroundings) (kind : BusKind) (id : SourceId)
    (later : List Exchange) : List Failure :=
  if w.live kind then
    if (addressOf? id later).any (Url.isCrossOrigin w.page) then [.unrouted .crossOrigin] else []
  else [.unrouted .noGraph]

/-- What fails with an exchange, given the buses that are not made yet and what comes later.  A refusal is
a failure of the call that was refused.  That a source is not offered to the graph at all is refused by
nobody, and is told here with a level that only sources on their way to the graph are given. -/
def Exchange.failures (w : Surroundings) (unmade : List BusKind) (later : List Exchange) :
    Exchange → List Failure
  | ⟨.supportsGraph, supported⟩ => if supported then [] else [.noContext]
  | ⟨.createContext, made⟩ => if made then [] else [.noContext]
  | ⟨.createBus _, reply⟩ =>
    unmade.head?.toList.flatMap fun bus => (refusals reply).map (.busMissing bus)
  | ⟨.createSource _ _ _, reply⟩ => (refusals reply).map .notCreated
  | ⟨.setRate id _, _⟩ => w.declined .effects id later
  | ⟨.setLooping id _, _⟩ => w.declined .music id later
  | ⟨.wrapSource _, reply⟩ => (refusals reply).map fun failure => .unrouted (.graph failure)
  | ⟨.createPanner _, reply⟩ => (refusals reply).map fun failure => .unrouted (.graph failure)
  | ⟨.connect _ _, reply⟩ => (refusals reply).map fun failure => .unrouted (.graph failure)
  | ⟨.connectBus _ _, reply⟩ => (refusals reply).map fun failure => .unrouted (.graph failure)
  | ⟨.play _, reply⟩ => (refusals reply).map .notStarted
  | ⟨.pause _, reply⟩ => (refusals reply).map .notHalted
  | ⟨.seek _ _, reply⟩ => (refusals reply).map .notHalted
  | ⟨.awaitResume, reply⟩ => reply.toList.flatMap fun result => (refusals result).map .notResumed
  | _ => []

/-- The buses that are not made yet after an exchange. -/
def Exchange.unmade (unmade : List BusKind) : Exchange → List BusKind
  | ⟨.createBus _, _⟩ => unmade.tail
  | _ => unmade

/-- The failures in a trace, in their order.  Nothing is read here but calls and answers, so that the
failures of a run are known without a look at what it has recorded. -/
def failuresFrom (w : Surroundings) : List BusKind → List Exchange → List Failure
  | _, [] => []
  | unmade, x :: later => x.failures w unmade later ++ failuresFrom w (x.unmade unmade) later

/-- The page that the host has told. -/
def pageTold (X : List Exchange) : Option Url :=
  match X.head? with
  | some ⟨.pageAddress, page⟩ => page
  | _ => none

/-- What became of the buses, one after the other. -/
def busesMade (X : List Exchange) : List Bool :=
  X.filterMap fun
    | ⟨.createBus _, reply⟩ => some reply.isOk
    | _ => none

/-- The surroundings, as a trace tells them. -/
def surroundings (X : List Exchange) : Surroundings :=
  ⟨pageTold X, fun kind => ((BusKind.all.zip (busesMade X)).lookup kind).getD false⟩

/-- **The failures of a run**, told by what the host answered. -/
def failures (X : List Exchange) : List Failure := failuresFrom (surroundings X) BusKind.all X

/-! ## 2. Failures in the log -/

/-- The failure that a record is about. -/
def Record.failure? : Record → Option Failure
  | .noContext => some .noContext
  | .busMissing bus failure => some (.busMissing bus failure)
  | .unlockFailed failure => some (.notResumed failure)
  | .musicNotCreated _ failure => some (.notCreated failure)
  | .effectNotCreated _ failure => some (.notCreated failure)
  | .notStarted _ failure => some (.notStarted failure)
  | .notHalted _ failure => some (.notHalted failure)
  | .unrouted _ _ reason => some (.unrouted reason)
  | .musicStarted _ _ _ _ _ | .musicStopped _ _ | .created _ _ _ | .effectStarted _ _ _ _
  | .effectFinished _ | .noticeDropped _ => none

/-- A record that a track was started or stopped. -/
def Record.isTrackNotice : Record → Bool
  | .musicStarted _ _ _ _ _ | .musicStopped _ _ => true
  | _ => false

/-- **The records of failures** are those that matter more than a trace, but for the two notices about
tracks. -/
theorem Record.failure?_isSome_iff (r : Record) :
    r.failure?.isSome = true ↔ r.level ≠ .trace ∧ r.isTrackNotice = false := by
  cases r <;> simp [failure?, level, isTrackNotice]

/-- **A record of a failure names it.** -/
theorem Record.names_failure {r : Record} {f : Failure} (h : r.failure? = some f) :
    ∃ before after, r.text = before ++ f.words ++ after := by
  -- but for the first one, a record ends with the failure
  have hlast : ∀ {before}, r.text = before ++ f.words →
      ∃ before after, r.text = before ++ f.words ++ after := by
    intro before htext
    exact ⟨before, "", by rw [htext, String.append_empty]⟩
  cases r with
  | noContext =>
    cases h
    exact ⟨"", "; sounds will play unrouted", by decide⟩
  | busMissing | unlockFailed | musicNotCreated | effectNotCreated | notStarted | notHalted
  | unrouted =>
    cases h
    exact hlast rfl
  | musicStarted | musicStopped | created | effectStarted | effectFinished | noticeDropped =>
    cases h

/-- The failure that an entry records. -/
def Entry.failure? : Entry → Option Failure
  | .exchange _ _ => none
  | .record r => r.failure?

/-- The failures that some entries record, in their order. -/
def logged (L : List Entry) : List Failure := L.filterMap Entry.failure?

@[simp] theorem logged_nil : logged [] = [] := rfl

@[simp] theorem logged_cons_exchange (call : Call) (reply : call.Reply) (L : List Entry) :
    logged (.exchange call reply :: L) = logged L := rfl

@[simp] theorem logged_cons_record (r : Record) (L : List Entry) :
    logged (.record r :: L) = r.failure?.toList ++ logged L := by
  unfold logged
  rw [List.filterMap_cons]
  have hentry : (Entry.record r).failure? = r.failure? := rfl
  rw [hentry]
  cases r.failure? <;> rfl

@[simp] theorem logged_append (L K : List Entry) : logged (L ++ K) = logged L ++ logged K :=
  List.filterMap_append

/-- The failures in the log of a session. -/
theorem records_failures (s : Session H) :
    s.records.filterMap Record.failure? = logged s.chronicle := by
  unfold Session.records logged
  rw [List.filterMap_filterMap]
  congr 1
  funext e
  cases e <;> rfl

/-! ## 3. Every part of the conduct -/

/-- The failures in the exchanges are those that are recorded, whatever comes later. -/
def Accounted (w : Surroundings) (L : List Entry) : Prop :=
  ∀ unmade later, failuresFrom w unmade (exchangesOf L ++ later) =
    logged L ++ failuresFrom w unmade later

theorem accounted_nil (w : Surroundings) : Accounted w [] := fun _ _ => rfl

theorem Accounted.append {w : Surroundings} {L K : List Entry} (h : Accounted w L)
    (h' : Accounted w K) : Accounted w (L ++ K) := by
  intro unmade later
  rw [exchangesOf_append, List.append_assoc, h, h', logged_append, List.append_assoc]

theorem Accounted.record {w : Surroundings} {L : List Entry} {r : Record} (h : Accounted w L)
    (hr : r.failure? = none) : Accounted w (L ++ [.record r]) := by
  refine h.append fun unmade later => ?_
  simp [hr]

namespace Conduct

variable {w : Surroundings} {id : SourceId}

theorem starting_accounted {start : Start} {S : List Entry} (h : Starting id start S) :
    Accounted w S := by
  intro unmade later
  cases h with
  | accepted => rfl
  | refused failure address => rfl

theorem halting_accounted {L : List Entry} (h : Halting id L) : Accounted w L := by
  intro unmade later
  cases h with
  | rewound => rfl
  | notPaused failure address => rfl
  | notRewound failure address => rfl

theorem resuming_accounted {outcome : MusicOutcome} {L : List Entry} (h : Resuming id outcome L) :
    Accounted w L := by
  cases h with
  | playing => exact fun _ _ => rfl
  | paused hS => exact fun unmade later => starting_accounted hS unmade later

/-- What fails in the graph ends the chain, and is its result. -/
theorem chaining_failures {bus : BusNode} {pan : Single} {result : Except GraphFailure Route}
    {L : List Entry} (h : Chaining id bus pan result L) (unmade : List BusKind)
    (later : List Exchange) :
    failuresFrom w unmade (exchangesOf L ++ later) =
      (refusals result).map (fun failure => .unrouted (.graph failure)) ++
        failuresFrom w unmade later ∧ logged L = [] := by
  cases h with
  | notWrapped failure => exact ⟨rfl, rfl⟩
  | plain node joined => cases joined <;> exact ⟨rfl, rfl⟩
  | noPanner node failure => exact ⟨rfl, rfl⟩
  | notConnected node panner failure => exact ⟨rfl, rfl⟩
  | panned node panner joined => cases joined <;> exact ⟨rfl, rfl⟩

/-- Nothing fails while a source is scaled and its address is asked for. -/
theorem scaling_failures {m : Mixer} {kind : BusKind} {K : List Entry} (h : Scaling m id kind K)
    (address : String) (reason : DirectReason) (unmade : List BusKind) (later : List Exchange) :
    let T := K ++ [.exchange (.sourceAddress id) address, .record (.unrouted kind address reason)]
    failuresFrom w unmade (exchangesOf T ++ later) = failuresFrom w unmade later ∧
      logged T = [.unrouted reason] := by
  cases h with
  | live => exact ⟨rfl, rfl⟩
  | inert => exact ⟨rfl, rfl⟩

/-- **A source that is not brought through the graph fails once**, whether it is left out from the
beginning or a step in the graph fails. -/
theorem routes_failures {m : Mixer} {kind : BusKind} {pan : Single} {routing : Routing}
    {R : List Entry} (hm : w.live kind = (m.target? kind).isSome)
    (h : Routes m w.page id kind pan routing R) (unmade : List BusKind) (later : List Exchange) :
    w.declined kind id (exchangesOf R ++ later) ++ failuresFrom w unmade (exchangesOf R ++ later) =
      logged R ++ failuresFrom w unmade later := by
  -- what the chain and its address come to when the bus is live
  have hlive : ∀ {address : String} {L : List Entry} {result : Except GraphFailure Route}
      {bus : BusNode} (more : List Exchange), m.target? kind = some bus →
      Url.isCrossOrigin w.page address = false → Chaining id bus pan result L →
      w.declined kind id (⟨.sourceAddress id, address⟩ :: (exchangesOf L ++ more)) ++
          failuresFrom w unmade (⟨.sourceAddress id, address⟩ :: (exchangesOf L ++ more)) =
        (refusals result).map (fun failure => .unrouted (.graph failure)) ++
          failuresFrom w unmade more := by
    intro address L result bus more ht hc hL
    have hdeclined : w.declined kind id (⟨.sourceAddress id, address⟩ :: (exchangesOf L ++ more)) =
        [] := by
      simp [Surroundings.declined, hm, ht, addressOf?, hc]
    rw [hdeclined]
    exact (chaining_failures hL unmade more).1
  cases h with
  | attached hL =>
    cases hL with
    | attached ht hc hL =>
      have hlog := (chaining_failures (w := w) hL unmade later).2
      exact (hlive later ht hc hL).trans (by simp [refusals, hlog])
  | @direct reason L K hL hK address =>
    obtain ⟨hrest, hlog⟩ := scaling_failures (w := w) hK address reason unmade later
    rw [exchangesOf_append, List.append_assoc, logged_append, hlog]
    cases hL with
    | noBus ht =>
      have hdeclined (X : List Exchange) : w.declined kind id X = [.unrouted .noGraph] := by
        simp [Surroundings.declined, hm, ht]
      rw [hdeclined]
      exact congrArg ([Failure.unrouted .noGraph] ++ ·) hrest
    | crossOrigin ht hc =>
      have hdeclined (X : List Exchange) (told : String) (hc : Url.isCrossOrigin w.page told = true) :
          w.declined kind id (⟨.sourceAddress id, told⟩ :: X) = [.unrouted .crossOrigin] := by
        simp [Surroundings.declined, hm, ht, addressOf?, hc]
      exact congrArg₂ (· ++ ·) (hdeclined _ _ hc) hrest
    | failed ht hc hL =>
      have hchain := (chaining_failures (w := w) hL unmade later).2
      refine (hlive _ ht hc hL).trans ?_
      rw [hrest, logged_cons_exchange, hchain]
      rfl

/-- The last level of an effect is set, and it is routed. -/
theorem effect_accounted {m : Mixer} {pan : Single} {routing : Routing} {R : List Entry}
    (hm : ∀ kind, w.live kind = (m.target? kind).isSome)
    (h : Routes m w.page id .effects pan routing R) (rate : Single) :
    Accounted w (.exchange (.setRate id rate) () :: R) := by
  intro unmade later
  have hR := routes_failures (hm .effects) h unmade later
  exact hR

theorem track_accounted {m : Mixer} {pan : Single} {routing : Routing} {R : List Entry}
    (hm : ∀ kind, w.live kind = (m.target? kind).isSome)
    (h : Routes m w.page id .music pan routing R) (looping : Bool) (volume : Single) :
    Accounted w (.exchange (.setLooping id looping) () :: .exchange (.setVolume id volume) () :: R) := by
  intro unmade later
  have hR := routes_failures (hm .music) h unmade later
  exact hR

section Requests

variable {supply supply' : Supply} {address : String} {m : Mixer} {base : String}

theorem creating_accounted {L : List Entry} (h : Creating supply w.page address (.ok id, supply') L) :
    Accounted w L := by
  cases h with
  | built => exact fun _ _ => rfl

/-- Building a source fails, and that is recorded. -/
theorem notCreated_accounted {failure : PlaybackFailure} {r : Record} {L : List Entry}
    (hr : r.failure? = some (.notCreated failure))
    (h : Creating supply w.page address (.error failure, supply') L) :
    Accounted w (L ++ [.record r]) := by
  cases h with
  | refused =>
    intro unmade later
    rw [logged_append, logged_cons_record, hr]
    rfl

theorem playingEffect_accounted {effects : Effects} {request : EffectRequest}
    {result : EffectOutcome × Supply × Effects} {L : List Entry}
    (hm : ∀ kind, w.live kind = (m.target? kind).isSome)
    (h : PlayingEffect effects supply m w.page base request result L) : Accounted w L := by
  cases h with
  | skipped => exact accounted_nil w
  | failed _ hL => exact notCreated_accounted rfl hL
  | @played _ _ id _ _ _ _ _ _ hL hR hS =>
    have hlevel : Accounted w [.exchange (.setVolume id request.volumeFactor) ()] := fun _ _ => rfl
    have hroute := effect_accounted hm hR request.rateFactor
    exact (creating_accounted hL).append
      (hlevel.append (hroute.append ((starting_accounted hS).record rfl)))

theorem stoppingMusic_accounted {music : Music} {L : List Entry} (h : StoppingMusic music L) :
    Accounted w L := by
  cases h with
  | idle => exact accounted_nil w
  | stopped hL => exact (halting_accounted hL).record rfl

theorem beginning_accounted {request : MusicRequest} {result : MusicOutcome × Supply × Music}
    {L : List Entry} (hm : ∀ kind, w.live kind = (m.target? kind).isSome)
    (h : Beginning supply m w.page address request result L) : Accounted w L := by
  cases h with
  | failed hL => exact notCreated_accounted rfl hL
  | @started id _ _ _ _ _ _ hL hR hS =>
    have hroute := track_accounted hm hR request.loops (Level.whole 1)
    exact (creating_accounted hL).append (hroute.append ((starting_accounted hS).record rfl))

theorem playingMusic_accounted {music : Music} {request : MusicRequest}
    {result : MusicOutcome × Supply × Music} {L : List Entry}
    (hm : ∀ kind, w.live kind = (m.target? kind).isSome)
    (h : PlayingMusic music supply m w.page base request result L) : Accounted w L := by
  cases h with
  | skipped => exact accounted_nil w
  | answered _ _ _ hL => exact resuming_accounted hL
  | replaced _ _ hL hK => exact (stoppingMusic_accounted hL).append (beginning_accounted hm hK)

theorem haltingEach_accounted {effects : Effects} {L : List Entry} (h : HaltingEach effects L) :
    Accounted w L := by
  induction h with
  | nil => exact accounted_nil w
  | cons hL _ ih => exact (halting_accounted hL).append ih

end Requests

theorem settingGain_accounted {b : Bus} {gain : Single} {L : List Entry} (h : SettingGain b gain L) :
    Accounted w L := by
  cases h with
  | live => exact fun _ _ => rfl
  | inert => exact accounted_nil w

theorem looking_accounted {hasContext running : Bool} {L : List Entry}
    (h : Looking hasContext running L) : Accounted w L := by
  cases h with
  | noContext => exact accounted_nil w
  | context => exact fun _ _ => rfl

/-- While it is waited for a resumption, only its end can be a failure. -/
theorem awaiting_failures {patience : Nat} {result : Option (Except ContextFailure Unit)}
    {L : List Entry} (h : Awaiting patience result L) (unmade : List BusKind)
    (later : List Exchange) :
    failuresFrom w unmade (exchangesOf L ++ later) =
      (result.toList.flatMap fun result => (refusals result).map .notResumed) ++
        failuresFrom w unmade later ∧ logged L = [] := by
  induction h with
  | impatient => exact ⟨rfl, rfl⟩
  | decided patience result => exact ⟨by simp [failuresFrom, Exchange.failures, Exchange.unmade], rfl⟩
  | pending _ ih => exact ih

theorem unlocking_accounted {hasContext : Bool} {patience : Nat} {result : Option Bool}
    {L : List Entry} (h : Unlocking hasContext patience result L) : Accounted w L := by
  intro unmade later
  cases h with
  | unpolled | noContext | running => rfl
  | pending _ _ hL =>
    obtain ⟨hfailures, hlog⟩ := awaiting_failures (w := w) hL unmade later
    rw [logged_cons_exchange, logged_cons_exchange, hlog]
    exact hfailures
  | resumed _ _ hL state =>
    obtain ⟨hfailures, hlog⟩ := awaiting_failures (w := w) hL unmade (⟨.contextState, state⟩ :: later)
    rw [logged_cons_exchange, logged_cons_exchange, logged_append, hlog]
    simpa [failuresFrom, Exchange.failures, Exchange.unmade, refusals] using hfailures
  | failed _ _ hL state =>
    obtain ⟨hfailures, hlog⟩ := awaiting_failures (w := w) hL unmade (⟨.contextState, state⟩ :: later)
    rw [logged_cons_exchange, logged_cons_exchange, logged_append, hlog]
    simpa [failuresFrom, Exchange.failures, Exchange.unmade, refusals, Record.failure?] using hfailures

/-- **Every operation records what fails in it.** -/
theorem acts_accounted {drained : List Notice} {e : Engine} {op : Operation}
    {result : Answer × Engine} {L : List Entry} (hpage : e.page = w.page)
    (hm : ∀ kind, w.live kind = (e.mixer.target? kind).isSome) (h : Acts drained e op result L) :
    Accounted w L := by
  cases h with
  | playEffect hL => exact playingEffect_accounted hm (hpage ▸ hL)
  | playMusic hL => exact playingMusic_accounted hm (hpage ▸ hL)
  | stopMusic hL => exact stoppingMusic_accounted hL
  | stopAll hL hK => exact (stoppingMusic_accounted hL).append (haltingEach_accounted hK)
  | drain => exact accounted_nil w
  | setGain hL => exact settingGain_accounted hL
  | unlock hL => exact unlocking_accounted hL
  | isUnlocked hL => exact looking_accounted hL

theorem farewells_accounted (effects : Effects) (notices : List Notice) :
    Accounted w (farewells effects notices) := by
  induction notices generalizing effects with
  | nil => exact accounted_nil w
  | cons n ns ih =>
    unfold farewells
    refine Accounted.append ?_ (ih _)
    split
    · exact (accounted_nil w).record rfl
    · exact accounted_nil w

/-! ### Building -/

theorem creatingBus_failures {kind : BusKind} {gain : Single} {b : Bus} {L : List Entry}
    (h : CreatingBus kind gain b L) (rest : List BusKind) (later : List Exchange) :
    failuresFrom w (kind :: rest) (exchangesOf L ++ later) =
      logged L ++ failuresFrom w rest later := by
  cases h with
  | made => rfl
  | missing => rfl

/-- **So does building an engine.** -/
theorem building_failures {settings : Settings} {e : Engine} {L : List Entry}
    (h : Building settings e L) : ∃ unmade, ∀ later,
      failuresFrom w BusKind.all (exchangesOf L ++ later) = logged L ++ failuresFrom w unmade later := by
  cases h with
  | unrouted page hL hK hm =>
    cases hK with
    | live => cases hm
    | inert => cases hL <;> exact ⟨BusKind.all, fun _ => rfl⟩
  | routed page hL hK hm =>
    cases hK with
    | inert => cases hm
    | @live _ _ _ E M A hE hM hA =>
      cases hL with
      | asked =>
        refine ⟨[], fun later => ?_⟩
        have heffects := creatingBus_failures (w := w) hE [.music, .ambience]
          (exchangesOf M ++ (exchangesOf A ++ later))
        have hmusic := creatingBus_failures (w := w) hM [.ambience] (exchangesOf A ++ later)
        have hambience := creatingBus_failures (w := w) hA [] later
        have hcalls : failuresFrom w BusKind.all (exchangesOf (.exchange .pageAddress page ::
            ([.exchange .supportsGraph true, .exchange .createContext true] ++ (E ++ (M ++ A)))) ++
              later) =
            failuresFrom w [.effects, .music, .ambience]
              (exchangesOf E ++ (exchangesOf M ++ (exchangesOf A ++ later))) := by
          rw [← List.append_assoc (exchangesOf M), ← List.append_assoc (exchangesOf E),
            ← exchangesOf_append, ← exchangesOf_append]
          rfl
        rw [hcalls, heffects, hmusic, hambience, ← List.append_assoc, ← List.append_assoc,
          List.append_assoc (logged E), ← logged_append, ← logged_append]
        rfl

end Conduct

/-- **Every step records what fails in it.** -/
theorem Passage.accounted {p : Passage H} (hl : p.start.session.Listening) {w : Surroundings}
    (hpage : p.start.engine.page = w.page)
    (hm : ∀ kind, w.live kind = (p.start.engine.mixer.target? kind).isSome) :
    Accounted w p.entries := by
  cases hstep : p.step with
  | meanwhile change notices =>
    rw [entries_rested hl hstep]
    exact accounted_nil w
  | perform op =>
    obtain ⟨answer, L, -, hent, -, hA⟩ := performed hl hstep
    rw [hent]
    exact (Conduct.farewells_accounted _ _).append
      (Conduct.acts_accounted (e := Conduct.heeded p.start.engine p.consumed) hpage hm hA)

/-! ## 4. Duties -/

/-- A piece of what an operation has to do.  A duty is one thing to the engine, and some calls to the
host. -/
inductive Duty where
  | tell (call : Call)
  | build (source : SourceId) (address : String)
  | route (source : SourceId) (bus : BusKind) (pan : Single)
  | start (source : SourceId)
  | halt (source : SourceId)
  | resume (source : SourceId)
  | unlock (patience : Nat)

/-- The duty is done.  What fails in it leaves out what depends on it: a source that cannot be paused is
not rewound, a step in the graph that fails ends the chain. -/
inductive Duty.Done (e : Engine) : Duty → List Exchange → Prop
  | told (call : Call) (reply : call.Reply) : Done e (.tell call) [⟨call, reply⟩]
  | built (id : SourceId) (address : String) :
      Done e (.build id address)
        [⟨.createSource id address (.of e.page address), .ok ()⟩, ⟨.setPreload id true, ()⟩]
  | notBuilt (id : SourceId) (address : String) (failure : PlaybackFailure) :
      Done e (.build id address) [⟨.createSource id address (.of e.page address), .error failure⟩]
  | routed {id : SourceId} {kind : BusKind} {pan : Single} {routing : Routing} {R : List Entry}
      (hR : Conduct.Routes e.mixer e.page id kind pan routing R) :
      Done e (.route id kind pan) (exchangesOf R)
  | started {id : SourceId} {start : Start} {S : List Entry} (hS : Conduct.Starting id start S) :
      Done e (.start id) (exchangesOf S)
  | halted {id : SourceId} {L : List Entry} (hL : Conduct.Halting id L) :
      Done e (.halt id) (exchangesOf L)
  | resumed {id : SourceId} {outcome : MusicOutcome} {L : List Entry}
      (hL : Conduct.Resuming id outcome L) : Done e (.resume id) (exchangesOf L)
  | unlocked {patience : Nat} {result : Option Bool} {L : List Entry}
      (hL : Conduct.Unlocking e.mixer.hasContext patience result L) :
      Done e (.unlock patience) (exchangesOf L)

/-- The duties are done one after the other, whatever comes of each: what fails in one of them does not
keep the next one from being done. -/
def Discharged (e : Engine) (duties : List Duty) (X : List Exchange) : Prop :=
  ∃ parts, List.Forall₂ (Duty.Done e) duties parts ∧ X = parts.flatten

/-- What a request for a sound has to do: the source is built, and if it is, it is told its levels,
routed and started. -/
def Duty.request (e : Engine) (built : Bool) (address : String) (levels : List Call) (bus : BusKind)
    (pan : Single) : List Duty :=
  .build e.supply.nextId address ::
    if built then levels.map .tell ++ [.route e.supply.nextId bus pan, .start e.supply.nextId] else []

/-- What an operation has to do.  Of all that can fail, only the building of a source makes a
difference. -/
def Operation.duties (e : Engine) (built : Bool) : Operation → List Duty
  | .playEffect request =>
    match Address.resolve request.name e.settings.effectiveBase with
    | none => []
    | some address =>
      Duty.request e built address
        [.setVolume e.supply.nextId request.volumeFactor, .setRate e.supply.nextId request.rateFactor]
        .effects request.panFactor
  | .playMusic request =>
    match Address.resolve request.name e.settings.effectiveBase with
    | none => []
    | some address =>
      match e.music.filter (·.answers request) with
      | some t => [.resume t.source]
      | none =>
        e.music.toList.map (fun t => .halt t.source) ++
          Duty.request e built address
            [.setLooping e.supply.nextId request.loops, .setVolume e.supply.nextId (Level.whole 1)]
            .music .zero
  | .stopMusic => e.music.toList.map fun t => .halt t.source
  | .stopAll order =>
    e.music.toList.map (fun t => .halt t.source) ++
      (order.arrange e.effects).map fun effect => .halt effect.source
  | .drain => []
  | .setGain kind gain =>
    (e.mixer.buses.get kind).node.toList.map fun node => .tell (.setBusGain node (Level.gain gain))
  | .unlock patience => [.unlock patience]
  | .isUnlocked => if e.mixer.hasContext then [.tell .contextState] else []

section Discharged

variable {e : Engine} {duty : Duty} {duties more : List Duty} {X Y : List Exchange}

theorem discharged_nil : Discharged e [] [] := ⟨[], .nil, rfl⟩

theorem Discharged.cons (h : duty.Done e X) (h' : Discharged e duties Y) :
    Discharged e (duty :: duties) (X ++ Y) := by
  obtain ⟨parts, hparts, rfl⟩ := h'
  exact ⟨X :: parts, .cons h hparts, rfl⟩

theorem Discharged.append (h : Discharged e duties X) (h' : Discharged e more Y) :
    Discharged e (duties ++ more) (X ++ Y) := by
  obtain ⟨parts, hparts, rfl⟩ := h
  obtain ⟨parts', hparts', rfl⟩ := h'
  exact ⟨parts ++ parts', List.rel_append hparts hparts', by simp⟩

theorem discharged_one (h : duty.Done e X) : Discharged e [duty] X := by
  simpa using Discharged.cons h discharged_nil

end Discharged

namespace Conduct

variable {e : Engine}

theorem halting_discharged {id : SourceId} {L : List Entry} (h : Halting id L) :
    Discharged e [.halt id] (exchangesOf L) := discharged_one (.halted h)

theorem stoppingMusic_discharged {music : Music} {L : List Entry} (h : StoppingMusic music L) :
    Discharged e (music.toList.map fun t => .halt t.source) (exchangesOf L) := by
  cases h with
  | idle => exact discharged_nil
  | stopped hL =>
    rw [exchangesOf_append]
    simpa using halting_discharged hL

theorem haltingEach_discharged {effects : Effects} {L : List Entry} (h : HaltingEach effects L) :
    Discharged e (effects.map fun effect => .halt effect.source) (exchangesOf L) := by
  induction h with
  | nil => exact discharged_nil
  | cons hL _ ih =>
    rw [exchangesOf_append]
    exact (halting_discharged hL).append ih

/-- If a source is not built nothing more is done for it. -/
theorem notBuilt_discharged {address : String} {failure : PlaybackFailure} {supply' : Supply}
    {L : List Entry} (h : Creating e.supply e.page address (.error failure, supply') L)
    (levels : List Call) (bus : BusKind) (pan : Single) :
    Discharged e (Duty.request e ((exchangesOf L).any Exchange.builds) address levels bus pan)
      (exchangesOf L) := by
  cases h with
  | refused => exact discharged_one (.notBuilt _ _ failure)

/-- If it is built all the rest is done, whatever comes of it. -/
theorem built_discharged {address : String} {id : SourceId} {supply' : Supply} {bus : BusKind}
    {pan : Single} {routing : Routing} {start : Start} {L R S : List Entry}
    (hL : Creating e.supply e.page address (.ok id, supply') L)
    (hR : Routes e.mixer e.page id bus pan routing R) (hS : Starting id start S)
    (c c' : Call) (reply : c.Reply) (reply' : c'.Reply) :
    let X := exchangesOf L ++ (⟨c, reply⟩ :: ⟨c', reply'⟩ :: (exchangesOf R ++ exchangesOf S))
    Discharged e (Duty.request e (X.any Exchange.builds) address [c, c'] bus pan) X := by
  cases hL with
  | built =>
    have hlast := (discharged_one (e := e) (.routed hR)).append (discharged_one (.started hS))
    exact .cons (.built e.supply.nextId address) (.cons (.told c reply) (.cons (.told c' reply') hlast))

theorem playingEffect_discharged {request : EffectRequest} {result : EffectOutcome × Supply × Effects}
    {L : List Entry} (h : PlayingEffect e.effects e.supply e.mixer e.page e.settings.effectiveBase
      request result L) :
    Discharged e ((Operation.playEffect request).duties e ((exchangesOf L).any Exchange.builds))
      (exchangesOf L) := by
  cases h with
  | skipped hr =>
    simp only [Operation.duties, hr]
    exact discharged_nil
  | failed hr hL =>
    simp only [Operation.duties, hr, exchangesOf_append, exchangesOf_cons_record, exchangesOf_nil,
      List.append_nil]
    exact notBuilt_discharged hL _ _ _
  | played hr hL hR hS =>
    obtain ⟨rfl, -⟩ := creating_ok hL
    simp only [Operation.duties, hr, exchangesOf_append, exchangesOf_cons_exchange,
      exchangesOf_cons_record, exchangesOf_nil, List.append_nil]
    exact built_discharged hL hR hS _ _ _ _

theorem beginning_discharged {address : String} {request : MusicRequest}
    {result : MusicOutcome × Supply × Music} {L : List Entry}
    (h : Beginning e.supply e.mixer e.page address request result L) :
    Discharged e (Duty.request e ((exchangesOf L).any Exchange.builds) address
      [.setLooping e.supply.nextId request.loops, .setVolume e.supply.nextId (Level.whole 1)]
      .music .zero) (exchangesOf L) := by
  cases h with
  | failed hL =>
    simp only [exchangesOf_append, exchangesOf_cons_record, exchangesOf_nil, List.append_nil]
    exact notBuilt_discharged hL _ _ _
  | started hL hR hS =>
    obtain ⟨rfl, -⟩ := creating_ok hL
    simp only [exchangesOf_append, exchangesOf_cons_exchange, exchangesOf_cons_record,
      exchangesOf_nil, List.append_nil]
    exact built_discharged hL hR hS _ _ _ _

/-- To stop a track builds nothing. -/
theorem stoppingMusic_builds {music : Music} {L : List Entry} (h : StoppingMusic music L) :
    (exchangesOf L).any Exchange.builds = false := by
  cases h with
  | idle => rfl
  | stopped hL => cases hL <;> rfl

theorem playingMusic_discharged {request : MusicRequest} {result : MusicOutcome × Supply × Music}
    {L : List Entry} (h : PlayingMusic e.music e.supply e.mixer e.page e.settings.effectiveBase
      request result L) :
    Discharged e ((Operation.playMusic request).duties e ((exchangesOf L).any Exchange.builds))
      (exchangesOf L) := by
  cases h with
  | skipped hr =>
    simp only [Operation.duties, hr]
    exact discharged_nil
  | answered hr ht ha hL =>
    have hf : e.music.filter (·.answers request) = some _ := Option.filter_eq_some_iff.mpr ⟨ht, ha⟩
    simp only [Operation.duties, hr, hf]
    exact discharged_one (.resumed hL)
  | replaced hr hother hL hK =>
    have hf : e.music.filter (·.answers request) = none := by
      refine Option.filter_eq_none_iff.mpr fun t ht => ?_
      rw [hother t ht]
      exact Bool.false_ne_true
    simp only [Operation.duties, hr, hf, exchangesOf_append, List.any_append,
      stoppingMusic_builds hL, Bool.false_or]
    exact (stoppingMusic_discharged hL).append (beginning_discharged hK)

/-- **An operation does all that it has to do.** -/
theorem acts_discharged {drained : List Notice} {op : Operation} {result : Answer × Engine}
    {L : List Entry} (h : Acts drained e op result L) :
    Discharged e (op.duties e ((exchangesOf L).any Exchange.builds)) (exchangesOf L) := by
  cases h with
  | playEffect hL => exact playingEffect_discharged hL
  | playMusic hL => exact playingMusic_discharged hL
  | stopMusic hL => exact stoppingMusic_discharged hL
  | stopAll hL hK =>
    rw [exchangesOf_append]
    exact (stoppingMusic_discharged hL).append (haltingEach_discharged hK)
  | drain => exact discharged_nil
  | setGain hL =>
    cases hL with
    | live hn =>
      simp only [Operation.duties, hn]
      exact discharged_one (.told _ _)
    | inert hn =>
      simp only [Operation.duties, hn]
      exact discharged_nil
  | unlock hL => exact discharged_one (.unlocked hL)
  | isUnlocked hL =>
    cases hL with
    | noContext hc =>
      simp only [Operation.duties, hc]
      exact discharged_nil
    | context hc state =>
      simp only [Operation.duties, hc]
      exact discharged_one (.told _ _)

end Conduct

/-- What an engine asks while it is built.  Without a context there is nothing to make a bus in; with
one, every bus is asked for, whatever became of those before it. -/
def openingExchanges (settings : Settings) (page : Option Url) (supported made : Bool)
    (replies : BusKind → Except GraphFailure BusNode) : List Exchange :=
  ⟨.pageAddress, page⟩ :: ⟨.supportsGraph, supported⟩ ::
    if supported then
      ⟨.createContext, made⟩ ::
        if made then BusKind.all.map fun kind => ⟨.createBus (settings.gains.level kind), replies kind⟩
        else []
    else []

namespace Conduct

theorem creatingBus_exchanges {kind : BusKind} {gain : Single} {b : Bus} {L : List Entry}
    (h : CreatingBus kind gain b L) : ∃ reply, exchangesOf L = [⟨.createBus gain, reply⟩] := by
  cases h with
  | made node => exact ⟨.ok node, rfl⟩
  | missing failure => exact ⟨.error failure, rfl⟩

theorem building_exchanges {settings : Settings} {e : Engine} {L : List Entry}
    (h : Building settings e L) : ∃ page supported made replies,
      exchangesOf L = openingExchanges settings page supported made replies := by
  cases h with
  | unrouted page hL hK hm =>
    cases hK with
    | live => cases hm
    | inert =>
      -- no bus is asked for, so no answer matters
      have none : BusKind → Except GraphFailure BusNode := fun _ => .ok ⟨0⟩
      cases hL with
      | unsupported => exact ⟨page, false, false, none, rfl⟩
      | asked => exact ⟨page, true, false, none, rfl⟩
  | routed page hL hK hm =>
    cases hK with
    | inert => cases hm
    | live hE hM hA =>
      cases hL with
      | asked =>
        obtain ⟨effects, heffects⟩ := creatingBus_exchanges hE
        obtain ⟨music, hmusic⟩ := creatingBus_exchanges hM
        obtain ⟨ambience, hambience⟩ := creatingBus_exchanges hA
        refine ⟨page, true, true, PerBus.get ⟨effects, music, ambience⟩, ?_⟩
        rw [exchangesOf_cons_exchange, exchangesOf_append, exchangesOf_append, exchangesOf_append,
          heffects, hmusic, hambience]
        rfl

end Conduct

/-! ## 5. All runs -/

theorem busesMade_mixing (X : List Exchange) : busesMade (mixing X) = busesMade X := by
  unfold busesMade mixing
  rw [List.filterMap_filter]
  congr 1
  funext x
  obtain ⟨call, reply⟩ := x
  cases call <;> rfl

/-- After the engine has been built no bus is made. -/
theorem busesMade_turns (m : Mixer) (steps : List (Step H)) :
    busesMade (steps.flatMap (Step.turns m)) = [] := by
  refine List.filterMap_eq_nil_iff.mpr fun x hx => ?_
  obtain ⟨step, -, hx⟩ := List.mem_flatMap.mp hx
  unfold Step.turns at hx
  split at hx
  · obtain ⟨node, -, rfl⟩ := List.mem_map.mp hx
    rfl
  · exact absurd hx List.not_mem_nil

/-- A bus lives if making it succeeded. -/
theorem Construction.live {gains : Gains} {m : Mixer} {X : List Exchange}
    (h : Construction gains m X) (kind : BusKind) :
    ((BusKind.all.zip (busesMade X)).lookup kind).getD false = (m.target? kind).isSome := by
  cases h with
  | unsupported => cases kind <;> rfl
  | noContext => cases kind <;> rfl
  | context replies =>
    have hnode : (Mixer.target? ⟨true, .of fun kind => .of (gains.get kind) (replies kind).toOption⟩
        kind).isSome = (replies kind).isOk := by
      simp only [Mixer.target?, if_true, PerBus.get_of, Bus.of]
      cases replies kind <;> rfl
    rw [hnode]
    cases kind <;> rfl

/-- **The trace of a run tells its surroundings**, and they are those of the engine. -/
theorem surroundings_trace (settings : Settings) (host : H.State) (steps : List (Step H)) :
    let start : Situation H := .opening settings host
    let w := surroundings (exchangesOf (start.after steps).session.chronicle)
    w.page = start.engine.page ∧ ∀ kind, w.live kind = (start.engine.mixer.target? kind).isSome := by
  intro start w
  constructor
  · have hhead := head?_trace settings host steps
    change pageTold _ = _
    unfold pageTold
    rw [hhead]
  · intro kind
    have hl : start.session.Listening := opening_listening settings host
    have hbuilt := Conduct.building_mixing (opening_unfolds settings host).2
    rw [← hbuilt.live kind, busesMade_mixing]
    have hmade : busesMade (exchangesOf (start.after steps).session.chronicle) =
        busesMade (exchangesOf start.session.chronicle) := by
      rw [trace_eq hl, ← busesMade_mixing, mixing_append, mixing_history hl]
      unfold busesMade
      rw [List.filterMap_append]
      change busesMade _ ++ busesMade _ = _
      rw [busesMade_turns, busesMade_mixing, List.append_nil]
      rfl
    change ((BusKind.all.zip (busesMade _)).lookup kind).getD false = _
    rw [hmade]

/-- Every step of a run records what fails in it, and so does the run. -/
theorem history_accounted {now : Situation H} (hl : now.session.Listening) {w : Surroundings}
    (hpage : now.engine.page = w.page)
    (hm : ∀ kind, w.live kind = (now.engine.mixer.target? kind).isSome) (steps : List (Step H)) :
    Accounted w ((now.history steps).flatMap Passage.entries) := by
  induction steps generalizing now with
  | nil => exact accounted_nil w
  | cons step rest ih =>
    let p : Passage H := ⟨now, step⟩
    have hpage' : p.finish.engine.page = w.page := (Passage.fixed (p := p) hl).1.trans hpage
    have hm' : ∀ kind, w.live kind = (p.finish.engine.mixer.target? kind).isSome := by
      intro kind
      rw [hm kind]
      exact congrArg Option.isSome (target_after hl [step] kind).symm
    have hrest := ih (Passage.finish_listening (p := p) hl) hpage' hm'
    exact (Passage.accounted (p := p) hl hpage hm).append hrest

/-- **No failure is lost, and none is told twice.**  The failures in the trace of a run are those in
its log, in their order.  They are all that the log has above traces, but for the notices about tracks,
and each record names its failure.  And nothing is left out because of a failure, but what depends on it:
every bus is asked for, every operation answers, and it does all of its duties. -/
theorem failures_recorded (settings : Settings) (host : H.State) (steps : List (Step H)) :
    let start : Situation H := .opening settings host
    let now := start.after steps
    now.session.records.filterMap Record.failure? = failures (exchangesOf now.session.chronicle) ∧
      (∀ r ∈ now.session.records,
        (r.failure?.isSome = true ↔ r.level ≠ .trace ∧ r.isTrackNotice = false) ∧
          ∀ f, r.failure? = some f → ∃ before after, r.text = before ++ f.words ++ after) ∧
      (∃ page supported made replies, exchangesOf start.session.chronicle =
        openingExchanges settings page supported made replies) ∧
      ∀ p ∈ start.history steps, ∀ op, p.step = .perform op →
        let e := Conduct.heeded p.start.engine p.consumed
        (∃ answer, p.answer = some answer) ∧
          Discharged e (op.duties e (p.exchanges.any Exchange.builds)) p.exchanges := by
  intro start now
  have hl : start.session.Listening := opening_listening settings host
  have hB : Conduct.Building settings start.engine start.session.chronicle :=
    (opening_unfolds settings host).2
  refine ⟨?_, fun r _ => ⟨r.failure?_isSome_iff, fun f hf => Record.names_failure hf⟩,
    Conduct.building_exchanges hB, fun p hp op hop => ?_⟩
  · obtain ⟨hpage, hlive⟩ := surroundings_trace settings host steps
    obtain ⟨unmade, hbuilt⟩ := Conduct.building_failures
      (w := surroundings (exchangesOf now.session.chronicle)) hB
    have hrun := history_accounted hl hpage.symm hlive steps
    have hsplit : exchangesOf now.session.chronicle = exchangesOf start.session.chronicle ++
        (exchangesOf ((start.history steps).flatMap Passage.entries) ++ []) := by
      rw [List.append_nil, ← exchangesOf_append, ← chronicle_eq hl]
    -- the chronicle is cut where the engine was built: the buses are missing from there on
    calc now.session.records.filterMap Record.failure?
        = logged start.session.chronicle ++
            logged ((start.history steps).flatMap Passage.entries) := by
          rw [records_failures, chronicle_eq hl, logged_append]
      _ = failuresFrom (surroundings (exchangesOf now.session.chronicle)) BusKind.all
            (exchangesOf start.session.chronicle ++
              (exchangesOf ((start.history steps).flatMap Passage.entries) ++ [])) := by
          rw [hbuilt, hrun]
          simp [failuresFrom]
      _ = failures (exchangesOf now.session.chronicle) := by rw [← hsplit]; rfl
  · obtain ⟨answer, L, hanswer, hX, hA⟩ := Passage.acted (listening_of_mem_history hl hp) hop
    refine ⟨⟨answer, hanswer⟩, ?_⟩
    rw [hX]
    exact Conduct.acts_discharged hA

/-- On a stage where the bus for ambience is missing, a source cannot be wrapped, none starts, and the
second and the third one cannot be paused: two effects that fail twice each, and two more failures when
they are stopped. -/
theorem failures_recorded_stage :
    let host : Stage.host.State := { script :=
      { busFailures := [none, none, some (.nodeCreation "gain" "limit")],
        wrapFailure := some .alreadyAttached, playFailure := some (.startRefused "gesture"),
        pauseFails := [1, 2] } }
    let steps : List (Step Stage.host) := [.perform (.playEffect { name := "chime" }),
      .perform (.playEffect { name := "bell" }), .perform (.stopAll .oldestFirst)]
    let now : Situation Stage.host := (Situation.opening .standard host).after steps
    now.session.records.filterMap Record.failure? =
      [.busMissing .ambience (.nodeCreation "gain" "limit"),
        .unrouted (.graph .alreadyAttached), .notStarted (.startRefused "gesture"),
        .unrouted (.graph .alreadyAttached), .notStarted (.startRefused "gesture"),
        .notHalted (.stop "pause failed 1"), .notHalted (.stop "pause failed 2")] := by
  intro host steps now
  obtain ⟨hlog, -⟩ := failures_recorded (H := Stage.host) .standard host steps
  refine hlog.trans ?_
  decide +kernel

end SoundEngine
