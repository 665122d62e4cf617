import SoundEngine.Proofs.History

/-!
# Which calls are made where

The conduct relations say everything about the entries that a function leaves; most statements need
only which calls can be among them.  For each relation there is one lemma that says so, and the few
kinds of calls that the statements distinguish are named here.
-/

namespace SoundEngine

/-! ## 1. Kinds of calls -/

/-- A step in the processing graph that names no source: it goes with the source that was wrapped
right before. -/
def Call.isWiring : Call → Bool
  | .supportsStereoPan | .createPanner _ | .connect _ _ | .connectBus _ _ => true
  | _ => false

theorem Call.source?_of_isWiring {c : Call} (h : c.isWiring = true) : c.source? = none := by
  cases c <;> first | rfl | exact absurd h Bool.false_ne_true

theorem Call.isWiring_of_source? {c : Call} {id : SourceId} (h : c.source? = some id) :
    c.isWiring = false := by
  cases c <;> first | rfl | exact absurd h (by simp [Call.source?])

/-- A call that is about no source. -/
def Call.isGeneral : Call → Bool
  | .pageAddress | .supportsGraph | .createContext | .createBus _ | .contextState | .resume
  | .awaitResume | .setBusGain _ _ => true
  | _ => false

theorem Call.source?_of_isGeneral {c : Call} (h : c.isGeneral = true) : c.source? = none := by
  cases c <;> first | rfl | exact absurd h Bool.false_ne_true

/-- A call that routing a source can make: about the source itself, or in the graph. -/
def Call.isRouting (id : SourceId) : Call → Bool
  | .sourceAddress i | .wrapSource i | .sourceVolume i | .setVolume i _ => i == id
  | c => c.isWiring

namespace Exchange

/-- The host is asked to build a source. -/
def attempts (x : Exchange) : Bool :=
  match x.call with
  | .createSource _ _ _ => true
  | _ => false

/-- The host has built a source. -/
def builds : Exchange → Bool
  | ⟨.createSource _ _ _, reply⟩ => reply.isOk
  | _ => false

theorem attempts_of_builds {x : Exchange} (h : x.builds = true) : x.attempts = true := by
  obtain ⟨call, reply⟩ := x
  cases call with
  | createSource => rfl
  | _ => exact absurd h Bool.false_ne_true

/-- Whether a source was built shows in the attempts alone. -/
theorem any_builds_eq (X : List Exchange) :
    X.any builds = (X.filter attempts).any builds := by
  rw [List.any_filter]
  congr 1
  funext x
  by_cases h : x.builds = true
  · rw [h, attempts_of_builds h]
    rfl
  · rw [Bool.eq_false_iff.mpr h, Bool.and_false]

end Exchange

/-! ## 2. The calls of each conduct -/

namespace Conduct

variable {id : SourceId}

theorem creating_ok {supply supply' : Supply} {page : Option Url} {address : String}
    {L : List Entry} (h : Creating supply page address (.ok id, supply') L) :
    id = supply.nextId ∧ supply' = supply.advance ∧
      exchangesOf L = [⟨.createSource supply.nextId address (.of page address), .ok ()⟩,
        ⟨.setPreload supply.nextId true, ()⟩] := by
  cases h
  exact ⟨rfl, rfl, rfl⟩

theorem creating_error {supply supply' : Supply} {page : Option Url} {address : String}
    {failure : PlaybackFailure} {L : List Entry}
    (h : Creating supply page address (.error failure, supply') L) :
    supply' = supply.spend ∧
      exchangesOf L = [⟨.createSource supply.nextId address (.of page address), .error failure⟩] := by
  cases h
  exact ⟨rfl, rfl⟩

theorem starting_calls {start : Start} {S : List Entry} (h : Starting id start S) :
    ∀ x ∈ exchangesOf S, x.call = .play id ∨ x.call = .sourceAddress id := by
  cases h <;> simp

theorem halting_calls {L : List Entry} (h : Halting id L) :
    ∀ x ∈ exchangesOf L,
      x.call = .pause id ∨ x.call = .seek id .zero ∨ x.call = .sourceAddress id := by
  cases h <;> simp

theorem resuming_calls {outcome : MusicOutcome} {L : List Entry} (h : Resuming id outcome L) :
    ∀ x ∈ exchangesOf L,
      x.call = .isPaused id ∨ x.call = .play id ∨ x.call = .sourceAddress id := by
  cases h with
  | playing => simp
  | paused hS =>
    intro x hx
    rcases List.mem_cons.mp hx with rfl | hx
    · exact .inl rfl
    · exact .inr (starting_calls hS x hx)

theorem chaining_calls {bus : BusNode} {pan : Single} {result : Except GraphFailure Route}
    {L : List Entry} (h : Chaining id bus pan result L) :
    ∀ x ∈ exchangesOf L, x.call.isRouting id = true := by
  cases h <;> simp [Call.isRouting, Call.isWiring]

theorem attaching_calls {m : Mixer} {page : Option Url} {kind : BusKind} {pan : Single}
    {routing : Routing} {L : List Entry} (h : Attaching m page id kind pan routing L) :
    ∀ x ∈ exchangesOf L, x.call.isRouting id = true := by
  cases h with
  | noBus => simp
  | crossOrigin => simp [Call.isRouting]
  | attached _ _ hL => simpa [Call.isRouting] using chaining_calls hL
  | failed _ _ hL => simpa [Call.isRouting] using chaining_calls hL

theorem scaling_calls {m : Mixer} {kind : BusKind} {L : List Entry} (h : Scaling m id kind L) :
    ∀ x ∈ exchangesOf L, x.call.isRouting id = true := by
  cases h <;> simp [Call.isRouting]

theorem routes_calls {m : Mixer} {page : Option Url} {kind : BusKind} {pan : Single}
    {routing : Routing} {R : List Entry} (h : Routes m page id kind pan routing R) :
    ∀ x ∈ exchangesOf R, x.call.isRouting id = true := by
  cases h with
  | attached hL => exact attaching_calls hL
  | direct hL hK address =>
    intro x hx
    rw [exchangesOf_append, exchangesOf_append] at hx
    rcases List.mem_append.mp hx with hx | hx
    · exact attaching_calls hL x hx
    rcases List.mem_append.mp hx with hx | hx
    · exact scaling_calls hK x hx
    · rw [List.mem_singleton.mp hx]
      simp [Call.isRouting]

/-- Building a source is the business of nothing but building a source. -/
theorem filter_attempts_eq_nil (id : SourceId) {X : List Exchange}
    (h : ∀ x ∈ X, x.call.isRouting id = true ∨ x.call = .play id ∨ x.call = .pause id ∨
      x.call = .seek id .zero ∨ x.call = .isPaused id ∨ x.call = .sourceAddress id) :
    X.filter Exchange.attempts = [] := by
  refine List.filter_eq_nil_iff.mpr fun x hx => ?_
  obtain ⟨call, reply⟩ := x
  rcases h _ hx with h | h | h | h | h | h
  · cases call with
    | createSource => exact absurd h Bool.false_ne_true
    | _ => exact Bool.false_ne_true
  all_goals
    subst h
    exact Bool.false_ne_true

theorem starting_attempts {start : Start} {S : List Entry} (h : Starting id start S) :
    (exchangesOf S).filter Exchange.attempts = [] :=
  filter_attempts_eq_nil id fun x hx => by
    rcases starting_calls h x hx with h | h <;> simp [h]

theorem halting_attempts {L : List Entry} (h : Halting id L) :
    (exchangesOf L).filter Exchange.attempts = [] :=
  filter_attempts_eq_nil id fun x hx => by
    rcases halting_calls h x hx with h | h | h <;> simp [h]

theorem resuming_attempts {outcome : MusicOutcome} {L : List Entry} (h : Resuming id outcome L) :
    (exchangesOf L).filter Exchange.attempts = [] :=
  filter_attempts_eq_nil id fun x hx => by
    rcases resuming_calls h x hx with h | h | h <;> simp [h]

theorem routes_attempts {m : Mixer} {page : Option Url} {kind : BusKind} {pan : Single}
    {routing : Routing} {R : List Entry} (h : Routes m page id kind pan routing R) :
    (exchangesOf R).filter Exchange.attempts = [] :=
  filter_attempts_eq_nil id fun x hx => .inl (routes_calls h x hx)

theorem settingGain_calls {b : Bus} {gain : Single} {L : List Entry} (h : SettingGain b gain L) :
    ∀ x ∈ exchangesOf L, x.call.isGeneral = true := by
  cases h with
  | live => simp [Call.isGeneral]
  | inert => simp

theorem awaiting_calls {patience : Nat} {result : Option (Except ContextFailure Unit)}
    {L : List Entry} (h : Awaiting patience result L) :
    ∀ x ∈ exchangesOf L, x.call.isGeneral = true := by
  induction h with
  | impatient => simp
  | decided => simp [Call.isGeneral]
  | pending _ ih => exact List.forall_mem_cons.mpr ⟨rfl, ih⟩

theorem unlocking_calls {hasContext : Bool} {patience : Nat} {result : Option Bool}
    {L : List Entry} (h : Unlocking hasContext patience result L) :
    ∀ x ∈ exchangesOf L, x.call.isGeneral = true := by
  cases h with
  | unpolled => simp
  | noContext => simp
  | running => simp [Call.isGeneral]
  | pending _ _ hL =>
    exact List.forall_mem_cons.mpr ⟨rfl, List.forall_mem_cons.mpr ⟨rfl, awaiting_calls hL⟩⟩
  | resumed _ _ hL state | failed _ _ hL state =>
    rw [exchangesOf_cons_exchange, exchangesOf_cons_exchange, exchangesOf_append]
    refine List.forall_mem_cons.mpr ⟨rfl, List.forall_mem_cons.mpr ⟨rfl, ?_⟩⟩
    exact List.forall_mem_append.mpr ⟨awaiting_calls hL, by simp [Call.isGeneral]⟩

theorem looking_calls {hasContext running : Bool} {L : List Entry}
    (h : Looking hasContext running L) :
    ∀ x ∈ exchangesOf L, x.call.isGeneral = true := by
  cases h with
  | noContext => simp
  | context => simp [Call.isGeneral]

theorem creatingBus_calls {kind : BusKind} {gain : Single} {b : Bus} {L : List Entry}
    (h : CreatingBus kind gain b L) : ∀ x ∈ exchangesOf L, x.call.isGeneral = true := by
  cases h <;> simp [Call.isGeneral]

theorem findingContext_calls {made : Bool} {L : List Entry} (h : FindingContext made L) :
    ∀ x ∈ exchangesOf L, x.call.isGeneral = true := by
  cases h <;> simp [Call.isGeneral]

theorem buildingMixer_calls {gains : Gains} {m : Mixer} {L : List Entry}
    (h : BuildingMixer gains m L) : ∀ x ∈ exchangesOf L, x.call.isGeneral = true := by
  cases h with
  | inert => simp
  | live hL hK hJ =>
    rw [exchangesOf_append, exchangesOf_append]
    exact List.forall_mem_append.mpr ⟨creatingBus_calls hL,
      List.forall_mem_append.mpr ⟨creatingBus_calls hK, creatingBus_calls hJ⟩⟩

theorem building_calls {settings : Settings} {e : Engine} {L : List Entry}
    (h : Building settings e L) : ∀ x ∈ exchangesOf L, x.call.isGeneral = true := by
  cases h with
  | unrouted page hL hK =>
    rw [exchangesOf_cons_exchange, exchangesOf_append, exchangesOf_cons_record]
    exact List.forall_mem_cons.mpr ⟨rfl,
      List.forall_mem_append.mpr ⟨findingContext_calls hL, buildingMixer_calls hK⟩⟩
  | routed page hL hK =>
    rw [exchangesOf_cons_exchange, exchangesOf_append]
    exact List.forall_mem_cons.mpr ⟨rfl,
      List.forall_mem_append.mpr ⟨findingContext_calls hL, buildingMixer_calls hK⟩⟩

end Conduct

end SoundEngine
