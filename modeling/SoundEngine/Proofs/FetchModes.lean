import SoundEngine.Proofs.Buses
import SoundEngine.Proofs.Numbering
import SoundEngine.Simulation.Stage

/-!
# What is fetched without credentials stays out of the graph

Whether a source is fetched with credentials is settled when it is built, by the address that the
engine has for it.  Whether it may enter the processing graph is settled later, by the address that the
source itself tells.  A source fetched with credentials from elsewhere would be silent in the graph,
and one without them that stays outside has been fetched without them for nothing; so the two
decisions must be the same one.

They are (`modes_match_routes`), over a host whose sources tell the addresses that they were built for
(`TellsAddresses`).  There are two things to show.

* In the passage that builds a source (§2 to §4) both decisions are made, each by its own question to
  `Url.isCrossOrigin`; and nothing that a passage does in the graph is about any other source
  (`Passage.fetched`).
* In all other passages (§5) nothing is done in the graph for this source.  A track that is asked for
  again is resumed and not routed, and a track that replaces another one is a new source; so it is
  enough that no number is given out twice.
-/

namespace SoundEngine

open Conduct

variable {H : Host}

/-! ## 1. Fetching -/

/-- A call in the processing graph: a source is wrapped, or what it is wrapped in is connected. -/
def Call.isGraph : Call → Bool
  | .wrapSource _ => true
  | c => c.isWiring

/-- The entry is part of building a source or of routing it, except for what is asked of the source
itself. -/
def Entry.isFetching : Entry → Bool
  | .exchange (.createSource _ _ _) _ => true
  | .exchange c _ => c.isGraph
  | .record (.unrouted _ _ _) => true
  | .record _ => false

/-- What some entries say about building and routing sources. -/
def fetching (L : List Entry) : List Entry := L.filter Entry.isFetching

@[simp] theorem fetching_append (L K : List Entry) : fetching (L ++ K) = fetching L ++ fetching K :=
  List.filter_append _ _

/-- How often a source was offered to the graph.  A source can be wrapped once in its life, so that
more than once would be too often. -/
def wraps (id : SourceId) (X : List Exchange) : Nat := X.countP fun x => x.call = .wrapSource id

@[simp] theorem wraps_append (id : SourceId) (X Y : List Exchange) :
    wraps id (X ++ Y) = wraps id X + wraps id Y :=
  List.countP_append

/-- A source that was built, with the address it was built for. -/
def Exchange.built? : Exchange → Option (SourceId × String)
  | ⟨.createSource id address _, .ok _⟩ => some (id, address)
  | _ => none

/-- A source that was asked for its address, with what it told. -/
def Exchange.told? : Exchange → Option (SourceId × String)
  | ⟨.sourceAddress id, told⟩ => some (id, told)
  | _ => none

/-- Sources tell the addresses that they were built for.  A host need not see to that, and what a source
tells decides whether it is brought into the graph. -/
def TellsAddresses (X : List Exchange) : Prop :=
  ∀ made ∈ X.filterMap Exchange.built?, ∀ told ∈ X.filterMap Exchange.told?,
    told.1 = made.1 → told.2 = made.2

instance (X : List Exchange) : Decidable (TellsAddresses X) :=
  inferInstanceAs (Decidable (∀ made ∈ X.filterMap Exchange.built?,
    ∀ told ∈ X.filterMap Exchange.told?, told.1 = made.1 → told.2 = made.2))

theorem mem_built {X : List Exchange} {id : SourceId} {address : String}
    (h : (id, address) ∈ X.filterMap Exchange.built?) :
    ∃ mode, (⟨.createSource id address mode, .ok ()⟩ : Exchange) ∈ X := by
  obtain ⟨⟨c, reply⟩, hx, hbuilt⟩ := List.mem_filterMap.mp h
  cases c with
  | createSource i a mode =>
    cases reply with
    | ok _ =>
      cases hbuilt
      exact ⟨mode, hx⟩
    | error failure => cases hbuilt
  | _ => cases hbuilt

theorem TellsAddresses.told {X : List Exchange} (h : TellsAddresses X) {id : SourceId}
    {address told : String} {mode : FetchMode}
    (hmade : (⟨.createSource id address mode, .ok ()⟩ : Exchange) ∈ X)
    (htold : (⟨.sourceAddress id, told⟩ : Exchange) ∈ X) : told = address :=
  h (id, address) (List.mem_filterMap.mpr ⟨_, hmade, rfl⟩) (id, told)
    (List.mem_filterMap.mpr ⟨_, htold, rfl⟩) rfl

theorem TellsAddresses.mono {X Y : List Exchange} (h : TellsAddresses Y) (hXY : ∀ x ∈ X, x ∈ Y) :
    TellsAddresses X := by
  intro made hmade told htold
  obtain ⟨x, hx, hmade⟩ := List.mem_filterMap.mp hmade
  obtain ⟨y, hy, htold⟩ := List.mem_filterMap.mp htold
  exact h made (List.mem_filterMap.mpr ⟨x, hXY x hx, hmade⟩) told
    (List.mem_filterMap.mpr ⟨y, hXY y hy, htold⟩)

/-- The address and the bus of the sound that an operation asks for. -/
def Operation.wants? (base : String) : Operation → Option (String × BusKind)
  | .playEffect request => (Address.resolve request.name base).map (·, .effects)
  | .playMusic request => (Address.resolve request.name base).map (·, .music)
  | _ => none

/-- What may be recorded behind a chain: that it has failed. -/
def ChainRecord (kind : BusKind) (tail : List Entry) : Prop :=
  tail = [] ∨ ∃ told failure, tail = [.record (.unrouted kind told (.graph failure))]

/-- **Building and routing one source**, by an engine with this mixer, for this page: what it leaves,
when the source tells the address that it was built for.  The same question is answered in both
places, so there is no way from the wrong mode into the graph. -/
inductive Fetched (m : Mixer) (page : Option Url) (id : SourceId) (address : String) (kind : BusKind) :
    List Entry → Prop
  | refused (failure : PlaybackFailure) :
      Fetched m page id address kind
        [.exchange (.createSource id address (.of page address)) (.error failure)]
  | noBus (h : m.target? kind = none) (told : String) :
      Fetched m page id address kind
        [.exchange (.createSource id address (.of page address)) (.ok ()),
          .record (.unrouted kind told .noGraph)]
  | declined {bus : BusNode} (h : m.target? kind = some bus)
      (hc : Url.isCrossOrigin page address = true) (told : String) :
      Fetched m page id address kind
        [.exchange (.createSource id address (.of page address)) (.ok ()),
          .record (.unrouted kind told .crossOrigin)]
  | chained {bus : BusNode} (h : m.target? kind = some bus)
      (hc : Url.isCrossOrigin page address = false) {pan : Single}
      {result : Except GraphFailure Route} {L tail : List Entry} (hL : Chaining id bus pan result L)
      (htail : ChainRecord kind tail) :
      Fetched m page id address kind
        (.exchange (.createSource id address (.of page address)) (.ok ()) :: (L ++ tail))

/-! ## 2. The conducts -/

namespace Conduct

variable {id : SourceId} {m : Mixer} {page : Option Url} {kind : BusKind}

theorem starting_fetching {start : Start} {S : List Entry} (h : Starting id start S) :
    fetching S = [] := by
  cases h <;> rfl

theorem halting_fetching {L : List Entry} (h : Halting id L) : fetching L = [] := by
  cases h <;> rfl

theorem resuming_fetching {outcome : MusicOutcome} {L : List Entry} (h : Resuming id outcome L) :
    fetching L = [] := by
  cases h with
  | playing => rfl
  | @paused start S hS =>
    change fetching S = []
    exact starting_fetching hS

theorem haltingEach_fetching {effects : Effects} {K : List Entry} (h : HaltingEach effects K) :
    fetching K = [] := by
  induction h with
  | nil => rfl
  | cons hL _ ih => rw [fetching_append, halting_fetching hL, ih, List.append_nil]

theorem stoppingMusic_fetching {music : Music} {L : List Entry} (h : StoppingMusic music L) :
    fetching L = [] := by
  cases h with
  | idle => rfl
  | stopped hL =>
    rw [fetching_append, halting_fetching hL]
    rfl

theorem settingGain_fetching {b : Bus} {gain : Single} {L : List Entry} (h : SettingGain b gain L) :
    fetching L = [] := by
  cases h <;> rfl

theorem looking_fetching {hasContext running : Bool} {L : List Entry}
    (h : Looking hasContext running L) : fetching L = [] := by
  cases h <;> rfl

theorem awaiting_fetching {patience : Nat} {result : Option (Except ContextFailure Unit)}
    {L : List Entry} (h : Awaiting patience result L) : fetching L = [] := by
  induction h with
  | impatient => rfl
  | decided => rfl
  | pending _ ih => exact ih

theorem unlocking_fetching {hasContext : Bool} {patience : Nat} {result : Option Bool}
    {L : List Entry} (h : Unlocking hasContext patience result L) : fetching L = [] := by
  cases h with
  | unpolled => rfl
  | noContext => rfl
  | running => rfl
  | @pending _ _ _ _ L hL =>
    change fetching L = []
    exact awaiting_fetching hL
  | resumed _ _ hL | failed _ _ hL =>
    change fetching (_ ++ _) = []
    rw [fetching_append, awaiting_fetching hL]
    rfl

theorem farewells_fetching (effects : Effects) (notices : List Notice) :
    fetching (farewells effects notices) = [] := by
  induction notices generalizing effects with
  | nil => rfl
  | cons n ns ih =>
    unfold farewells
    rw [fetching_append, ih]
    split <;> rfl

theorem scaling_fetching {L : List Entry} (h : Scaling m id kind L) : fetching L = [] := by
  cases h <;> rfl

theorem chaining_fetching {bus : BusNode} {pan : Single} {result : Except GraphFailure Route}
    {L : List Entry} (h : Chaining id bus pan result L) : fetching L = L := by
  cases h <;> rfl

/-- **A source that was built is routed by the address that it tells**, and that is the one it was
built for. -/
theorem routes_fetched {address : String} {pan : Single} {routing : Routing} {R : List Entry}
    (h : Routes m page id kind pan routing R)
    (htells : ∀ told, (⟨.sourceAddress id, told⟩ : Exchange) ∈ exchangesOf R → told = address) :
    Fetched m page id address kind
      (.exchange (.createSource id address (.of page address)) (.ok ()) :: fetching R) := by
  cases h with
  | attached hL =>
    cases hL with
    | @attached bus told route L hbus hc hL =>
      obtain rfl := htells told List.mem_cons_self
      have hkept : fetching (.exchange (.sourceAddress id) told :: L) = L ++ [] :=
        (chaining_fetching hL).trans (List.append_nil L).symm
      rw [hkept]
      exact .chained hbus hc hL (.inl rfl)
  | @direct reason L K hL hK last =>
    have hkept : fetching (L ++ (K ++ [.exchange (.sourceAddress id) last,
        .record (.unrouted kind last reason)])) =
        fetching L ++ [.record (.unrouted kind last reason)] := by
      rw [fetching_append, fetching_append, scaling_fetching hK]
      rfl
    have hasked : ∀ x ∈ exchangesOf L, x ∈ exchangesOf (L ++ (K ++
        [.exchange (.sourceAddress id) last, .record (.unrouted kind last reason)])) := by
      intro x hx
      rw [exchangesOf_append]
      exact List.mem_append_left _ hx
    rw [hkept]
    cases hL with
    | noBus hbus => exact .noBus hbus last
    | @crossOrigin bus told hbus hc =>
      obtain rfl := htells told (hasked _ List.mem_cons_self)
      exact .declined hbus hc last
    | @failed bus told failure L hbus hc hL =>
      obtain rfl := htells told (hasked _ List.mem_cons_self)
      have hchain : fetching (.exchange (.sourceAddress id) told :: L) = L := chaining_fetching hL
      rw [hchain]
      exact .chained hbus hc hL (.inr ⟨last, failure, rfl⟩)

variable {supply supply' : Supply} {base : String}

/-- **A source that was built**, given its levels, routed and started. -/
theorem built_fetched {address : String} {pan : Single} {routing : Routing} {start : Start}
    {L levels R S : List Entry} {r : Record} (hL : Creating supply page address (.ok id, supply') L)
    (hlevels : fetching levels = []) (hR : Routes m page id kind pan routing R)
    (hS : Starting id start S) (hr : fetching [.record r] = [])
    (htells : TellsAddresses (exchangesOf (L ++ (levels ++ (R ++ (S ++ [.record r])))))) :
    Fetched m page id address kind (fetching (L ++ (levels ++ (R ++ (S ++ [.record r]))))) := by
  obtain ⟨rfl, -, hX⟩ := creating_ok hL
  have hbuilt : fetching L =
      [.exchange (.createSource supply.nextId address (.of page address)) (.ok ())] := by
    cases hL
    rfl
  have hkept : fetching (L ++ (levels ++ (R ++ (S ++ [.record r])))) =
      .exchange (.createSource supply.nextId address (.of page address)) (.ok ()) ::
        fetching R := by
    rw [fetching_append, fetching_append, fetching_append, fetching_append, hbuilt, hlevels,
      starting_fetching hS, hr]
    simp
  rw [hkept]
  refine routes_fetched hR fun told htold => ?_
  have hmade : (⟨.createSource supply.nextId address (.of page address), .ok ()⟩ : Exchange) ∈
      exchangesOf (L ++ (levels ++ (R ++ (S ++ [.record r])))) := by
    rw [exchangesOf_append, hX]
    exact List.mem_cons_self
  -- the source is asked for its address after it was made, and tells the one it was made for
  have hasked : (⟨.sourceAddress supply.nextId, told⟩ : Exchange) ∈
      exchangesOf (L ++ (levels ++ (R ++ (S ++ [.record r])))) := by
    rw [exchangesOf_append, exchangesOf_append, exchangesOf_append]
    exact List.mem_append_right _ (List.mem_append_right _ (List.mem_append_left _ htold))
  exact htells.told hmade hasked

theorem playingEffect_fetched {effects effects' : Effects} {request : EffectRequest}
    {outcome : EffectOutcome} {L : List Entry}
    (h : PlayingEffect effects supply m page base request (outcome, supply', effects') L)
    (htells : TellsAddresses (exchangesOf L)) :
    fetching L = [] ∨ ∃ id address kind,
      (Operation.playEffect request).wants? base = some (address, kind) ∧
        Fetched m page id address kind (fetching L) := by
  cases h with
  | skipped => exact .inl rfl
  | @failed address hr failure _ L hL =>
    refine .inr ⟨supply.nextId, address, .effects, ?_, ?_⟩
    · exact congrArg (Option.map _) hr
    · cases hL
      exact .refused failure
  | @played address hr id _ routing start L R S hL hR hS =>
    refine .inr ⟨id, address, .effects, congrArg (Option.map _) hr, ?_⟩
    have hlevels : fetching [.exchange (.setVolume id request.volumeFactor) (),
      .exchange (.setRate id request.rateFactor) ()] = [] := rfl
    exact built_fetched hL hlevels hR hS rfl htells

theorem beginning_fetched {address : String} {music : Music} {request : MusicRequest}
    {outcome : MusicOutcome} {L : List Entry}
    (h : Beginning supply m page address request (outcome, supply', music) L)
    (htells : TellsAddresses (exchangesOf L)) :
    ∃ id, Fetched m page id address .music (fetching L) := by
  cases h with
  | @failed failure _ L hL =>
    refine ⟨supply.nextId, ?_⟩
    cases hL
    exact .refused failure
  | @started id _ routing start L R S hL hR hS =>
    refine ⟨id, ?_⟩
    have hlevels : fetching [.exchange (.setLooping id request.loops) (),
      .exchange (.setVolume id (Level.whole 1)) ()] = [] := rfl
    exact built_fetched hL hlevels hR hS rfl htells

theorem playingMusic_fetched {music music' : Music} {request : MusicRequest}
    {outcome : MusicOutcome} {L : List Entry}
    (h : PlayingMusic music supply m page base request (outcome, supply', music') L)
    (htells : TellsAddresses (exchangesOf L)) :
    fetching L = [] ∨ ∃ id address kind,
      (Operation.playMusic request).wants? base = some (address, kind) ∧
        Fetched m page id address kind (fetching L) := by
  cases h with
  | skipped => exact .inl rfl
  | answered _ _ _ hL => exact .inl (resuming_fetching hL)
  | @replaced address hr _ _ L K hL hK =>
    have hlater : TellsAddresses (exchangesOf K) := by
      refine htells.mono fun x hx => ?_
      rw [exchangesOf_append]
      exact List.mem_append_right _ hx
    obtain ⟨id, hfetched⟩ := beginning_fetched hK hlater
    rw [fetching_append, stoppingMusic_fetching hL]
    exact .inr ⟨id, address, .music, congrArg (Option.map _) hr, hfetched⟩

theorem acts_fetched {drained : List Notice} {e e' : Engine} {op : Operation} {answer : Answer}
    {L : List Entry} (h : Acts drained e op (answer, e') L)
    (htells : TellsAddresses (exchangesOf L)) :
    fetching L = [] ∨ ∃ id address kind,
      op.wants? e.settings.effectiveBase = some (address, kind) ∧
        Fetched e.mixer e.page id address kind (fetching L) := by
  cases h with
  | playEffect hL => exact playingEffect_fetched hL htells
  | playMusic hL => exact playingMusic_fetched hL htells
  | stopMusic hL => exact .inl (stoppingMusic_fetching hL)
  | stopAll hL hK =>
    refine .inl ?_
    rw [fetching_append, stoppingMusic_fetching hL, haltingEach_fetching hK]
    rfl
  | drain => exact .inl rfl
  | setGain hL => exact .inl (settingGain_fetching hL)
  | unlock hL => exact .inl (unlocking_fetching hL)
  | isUnlocked hL => exact .inl (looking_fetching hL)

/-- No operation changes the page or the settings. -/
theorem acts_fixed {drained : List Notice} {e e' : Engine} {op : Operation} {answer : Answer}
    {L : List Entry} (h : Acts drained e op (answer, e') L) :
    e'.page = e.page ∧ e'.settings = e.settings := by
  cases h <;> exact ⟨rfl, rfl⟩

end Conduct

/-! ## 3. One passage -/

/-- The exchange is among the entries on building and routing. -/
theorem mem_fetching {p : Passage H} {c : Call} {reply : c.Reply}
    (h : Entry.isFetching (.exchange c reply) = true) :
    (⟨c, reply⟩ : Exchange) ∈ p.exchanges ↔ .exchange c reply ∈ fetching p.entries := by
  have hentry : (⟨c, reply⟩ : Exchange) ∈ p.exchanges ↔ .exchange c reply ∈ p.entries := by
    unfold Passage.exchanges exchangesOf
    rw [List.mem_filterMap]
    constructor
    · rintro ⟨entry, hentry, hx⟩
      cases entry with
      | exchange c' reply' =>
        cases Option.some.inj hx
        exact hentry
      | record r => cases hx
    · intro hentry
      exact ⟨_, hentry, rfl⟩
  rw [hentry]
  unfold fetching
  rw [List.mem_filter, and_iff_left h]

/-- The entries on building and routing have the exchanges of that kind. -/
theorem exchangesOf_fetching (L : List Entry) :
    exchangesOf (fetching L) =
      (exchangesOf L).filter fun x => Entry.isFetching (.exchange x.call x.reply) := by
  unfold exchangesOf fetching
  rw [List.filterMap_filter, List.filter_filterMap]
  congr 1
  funext entry
  cases entry with
  | exchange c reply =>
    unfold Entry.exchange?
    split <;> rename_i h <;> simp [Option.filter, h]
  | record r =>
    unfold Entry.exchange?
    split <;> rfl

theorem wraps_fetching (id : SourceId) (L : List Entry) :
    wraps id (exchangesOf (fetching L)) = wraps id (exchangesOf L) := by
  rw [exchangesOf_fetching]
  unfold wraps
  rw [List.countP_filter]
  refine List.countP_congr fun x _ => ?_
  rw [Bool.and_eq_true, and_iff_left_iff_imp]
  intro hwraps
  obtain ⟨c, reply⟩ := x
  obtain rfl : c = .wrapSource id := of_decide_eq_true hwraps
  rfl

theorem attempts_fetching (L : List Entry) :
    (exchangesOf (fetching L)).filter Exchange.attempts =
      (exchangesOf L).filter Exchange.attempts := by
  rw [exchangesOf_fetching, List.filter_filter]
  refine List.filter_congr fun x _ => ?_
  obtain ⟨c, reply⟩ := x
  cases c with
  | createSource => rfl
  | _ => exact Bool.false_and _

namespace Passage

/-- The sound that the passage asks for has this address and goes to this bus. -/
def Wants (p : Passage H) (base address : String) (kind : BusKind) : Prop :=
  ∃ op, p.step = .perform op ∧ op.wants? base = some (address, kind)

/-- In the passage a source is left out of the graph because it is from elsewhere, and this is recorded as
the reason. -/
def Declines (p : Passage H) : Prop :=
  ∃ kind told, .record (.unrouted kind told .crossOrigin) ∈ p.entries

theorem declines_iff {p : Passage H} :
    p.Declines ↔ ∃ kind told, .record (.unrouted kind told .crossOrigin) ∈ fetching p.entries := by
  unfold Declines fetching
  refine exists_congr fun kind => exists_congr fun told => ?_
  rw [List.mem_filter]
  exact (and_iff_left rfl).symm

/-- **A passage builds and routes at most one source**, the one that it asks for. -/
theorem fetched {p : Passage H} (hl : p.start.session.Listening)
    (htells : TellsAddresses p.exchanges) :
    fetching p.entries = [] ∨ ∃ id address kind,
      p.Wants p.start.engine.settings.effectiveBase address kind ∧
        Fetched p.start.engine.mixer p.start.engine.page id address kind (fetching p.entries) := by
  cases hstep : p.step with
  | meanwhile change notices =>
    rw [entries_rested hl hstep]
    exact .inl rfl
  | perform op =>
    obtain ⟨answer, L, -, hent, -, hA⟩ := performed hl hstep
    have hkept : fetching p.entries = fetching L := by
      rw [hent, fetching_append, farewells_fetching, List.nil_append]
    have hL : exchangesOf L = p.exchanges := by
      unfold exchanges
      rw [hent, exchangesOf_append, exchangesOf_farewells, List.nil_append]
    rw [← hL] at htells
    rw [hkept]
    rcases acts_fetched hA htells with hnone | ⟨id, address, kind, hwants, hfetched⟩
    · exact .inl hnone
    · exact .inr ⟨id, address, kind, ⟨op, hstep, hwants⟩, hfetched⟩

/-- The page and the settings stay. -/
theorem fixed {p : Passage H} (hl : p.start.session.Listening) :
    p.finish.engine.page = p.start.engine.page ∧
      p.finish.engine.settings = p.start.engine.settings := by
  cases hstep : p.step with
  | meanwhile change notices =>
    rw [(rested hstep).2.1]
    exact ⟨rfl, rfl⟩
  | perform op =>
    obtain ⟨answer, L, -, -, hA⟩ := acted hl hstep
    have hfixed := acts_fixed hA
    exact hfixed

end Passage

/-! ## 4. What building and routing a source comes to -/

theorem Mixer.target?_isSome_iff {m : Mixer} {kind : BusKind} :
    (m.target? kind).isSome = true ↔
      m.hasContext = true ∧ (m.buses.get kind).isLive = true := by
  unfold Mixer.target? Bus.isLive
  cases m.hasContext <;> simp

theorem fetchMode_anonymous_iff {page : Option Url} {address : String} :
    FetchMode.of page address = .anonymous ↔ Url.isCrossOrigin page address = true := by
  unfold FetchMode.of
  cases Url.isCrossOrigin page address <;> simp

theorem fetchMode_standard_iff {page : Option Url} {address : String} :
    FetchMode.of page address = .standard ↔ Url.isCrossOrigin page address = false := by
  unfold FetchMode.of
  cases Url.isCrossOrigin page address <;> simp

/-- What cannot be read against the page is not known to be from elsewhere. -/
theorem isCrossOrigin_unread {page : Option Url} {address : String}
    (h : ∀ u, page = some u → Url.ofText? (some u) address = none) :
    Url.isCrossOrigin page address = false := by
  unfold Url.isCrossOrigin
  cases page with
  | none => rfl
  | some u =>
    dsimp only
    rw [h u rfl]

section Fetched

variable {m : Mixer} {page : Option Url} {id : SourceId} {address : String} {kind : BusKind}
  {K : List Entry}

theorem ChainRecord.exchanges {tail : List Entry} (h : ChainRecord kind tail) :
    exchangesOf tail = [] := by
  rcases h with rfl | ⟨told, failure, rfl⟩ <;> rfl

/-- A chain offers its source to the graph once. -/
theorem chaining_wraps {bus : BusNode} {pan : Single} {result : Except GraphFailure Route}
    {L : List Entry} (h : Chaining id bus pan result L) : wraps id (exchangesOf L) = 1 := by
  cases h <;> simp [wraps]

theorem mem_exchangesOf {L : List Entry} {c : Call} {reply : c.Reply}
    (h : .exchange c reply ∈ L) : (⟨c, reply⟩ : Exchange) ∈ exchangesOf L :=
  List.mem_filterMap.mpr ⟨_, h, rfl⟩

section Chained

variable {bus : BusNode} {pan : Single} {result : Except GraphFailure Route} {L tail : List Entry}
  (hL : Chaining id bus pan result L) (htail : ChainRecord kind tail) {mode : FetchMode}
  {made : (Call.createSource id address mode).Reply}

include hL htail

/-- A source that is routed by way of a chain is asked for once. -/
theorem chained_attempts :
    (exchangesOf (.exchange (.createSource id address mode) made :: (L ++ tail))).filter
      Exchange.attempts = [⟨.createSource id address mode, made⟩] := by
  have hchain : (exchangesOf L).filter Exchange.attempts = [] :=
    filter_attempts_eq_nil id fun x hx => .inl (chaining_calls hL x hx)
  rw [exchangesOf_cons_exchange, exchangesOf_append, htail.exchanges, List.append_nil,
    List.filter_cons_of_pos rfl, hchain]

/-- All other calls are those of the chain. -/
theorem chained_routing {c : Call} {reply : c.Reply}
    (hmem : .exchange c reply ∈ (.exchange (.createSource id address mode) made :: (L ++ tail))) :
    (⟨c, reply⟩ : Exchange) = ⟨.createSource id address mode, made⟩ ∨ c.isRouting id = true := by
  have hx := mem_exchangesOf hmem
  rw [exchangesOf_cons_exchange, exchangesOf_append, htail.exchanges, List.append_nil] at hx
  rcases List.mem_cons.mp hx with hx | hx
  · exact .inl hx
  · exact .inr (chaining_calls hL _ hx)

/-- It is not left out as one from elsewhere. -/
theorem chained_not_declined (other : BusKind) (told : String) :
    .record (.unrouted other told .crossOrigin) ∉
      (.exchange (.createSource id address mode) made :: (L ++ tail) : List Entry) := by
  rcases htail with rfl | ⟨last, failure, rfl⟩ <;> cases hL <;> simp

end Chained

/-- **One source is asked for**, and its mode is that of its address. -/
theorem Fetched.created (h : Fetched m page id address kind K) {i : SourceId} {a : String}
    {mode : FetchMode} {reply : (Call.createSource i a mode).Reply}
    (hmem : .exchange (.createSource i a mode) reply ∈ K) :
    i = id ∧ a = address ∧ mode = .of page address := by
  cases h with
  | refused | noBus | declined =>
    simp only [List.mem_cons, List.not_mem_nil, or_false, Entry.exchange.injEq,
      Call.createSource.injEq, reduceCtorEq] at hmem
    exact hmem.1
  | chained _ _ hL htail =>
    rcases chained_routing hL htail hmem with hsame | hrouting
    · cases hsame
      exact ⟨rfl, rfl, rfl⟩
    · exact absurd hrouting Bool.false_ne_true

/-- **Only a source that was fetched with credentials** enters the graph. -/
theorem Fetched.graph (h : Fetched m page id address kind K) {c : Call} {reply : c.Reply}
    (hmem : .exchange c reply ∈ K) (hgraph : c.isGraph = true) :
    (exchangesOf K).filter Exchange.attempts = [⟨.createSource id address .standard, .ok ()⟩] ∧
      c.isRouting id = true := by
  cases h with
  | refused | noBus | declined =>
    simp only [List.mem_cons, List.not_mem_nil, or_false, Entry.exchange.injEq,
      reduceCtorEq] at hmem
    obtain ⟨rfl, -⟩ := hmem
    exact absurd hgraph Bool.false_ne_true
  | chained _ hc hL htail =>
    rw [fetchMode_standard_iff.mpr hc] at hmem ⊢
    refine ⟨chained_attempts hL htail, ?_⟩
    rcases chained_routing hL htail hmem with hsame | hrouting
    · cases hsame
      exact absurd hgraph Bool.false_ne_true
    · exact hrouting

variable {mode : FetchMode} {reply : (Call.createSource id address mode).Reply}

/-- **It is offered to the graph once**, or never. -/
theorem Fetched.wraps (h : Fetched m page id address kind K)
    (hmem : .exchange (.createSource id address mode) reply ∈ K) :
    SoundEngine.wraps id (exchangesOf K) =
      if reply.isOk = true ∧ mode = .standard ∧ (m.target? kind).isSome = true then 1 else 0 := by
  obtain ⟨-, -, rfl⟩ := h.created hmem
  cases h with
  | refused failure =>
    obtain rfl : reply = .error failure := by simpa using hmem
    simp [SoundEngine.wraps, Except.isOk, Except.toBool]
  | noBus hbus => simp [SoundEngine.wraps, hbus]
  | declined hbus hc => simp [SoundEngine.wraps, fetchMode_anonymous_iff.mpr hc]
  | chained hbus hc hL htail =>
    rcases chained_routing hL htail hmem with hsame | hrouting
    · cases hsame
      have hcount := chaining_wraps hL
      have hlive : (m.target? kind).isSome = true := by
        rw [hbus]
        rfl
      rw [exchangesOf_cons_exchange, exchangesOf_append, htail.exchanges, List.append_nil,
        if_pos ⟨rfl, fetchMode_standard_iff.mpr hc, hlive⟩]
      exact hcount
    · exact absurd hrouting Bool.false_ne_true

/-- **It is left out because it is from elsewhere** just when it was fetched without credentials, as
far as there is a bus for it. -/
theorem Fetched.declines (h : Fetched m page id address kind K)
    (hmem : .exchange (.createSource id address mode) reply ∈ K) :
    (∃ bus told, .record (.unrouted bus told .crossOrigin) ∈ K) ↔
      reply.isOk = true ∧ mode = .anonymous ∧ (m.target? kind).isSome = true := by
  obtain ⟨-, -, rfl⟩ := h.created hmem
  rw [fetchMode_anonymous_iff]
  cases h with
  | refused failure =>
    obtain rfl : reply = .error failure := by simpa using hmem
    simp [Except.isOk, Except.toBool]
  | noBus hbus => simp [hbus]
  | declined hbus hc told =>
    obtain rfl : reply = .ok () := by simpa using hmem
    simp [hbus, hc, Except.isOk, Except.toBool]
  | chained hbus hc hL htail =>
    refine iff_of_false ?_ fun h => Bool.noConfusion (h.2.1.symm.trans hc)
    rintro ⟨other, told, hdeclined⟩
    exact chained_not_declined hL htail other told hdeclined

/-- What is left out as one from elsewhere was built, and fetched without credentials. -/
theorem Fetched.anonymous (h : Fetched m page id address kind K) {bus : BusKind} {told : String}
    (hdeclined : .record (.unrouted bus told .crossOrigin) ∈ K) :
    (exchangesOf K).filter Exchange.attempts =
      [⟨.createSource id address .anonymous, .ok ()⟩] := by
  cases h with
  | refused | noBus => simp at hdeclined
  | declined _ hc =>
    rw [fetchMode_anonymous_iff.mpr hc]
    rfl
  | chained _ _ hL htail => exact absurd hdeclined (chained_not_declined hL htail bus told)

end Fetched

/-! ## 5. All runs -/

section Run

variable {now : Situation H}

theorem fixed_after (hl : now.session.Listening) (steps : List (Step H)) :
    (now.after steps).engine.page = now.engine.page ∧
      (now.after steps).engine.settings = now.engine.settings := by
  induction steps generalizing now with
  | nil => exact ⟨rfl, rfl⟩
  | cons step rest ih =>
    obtain ⟨hpage, hsettings⟩ := Passage.fixed (p := ⟨now, step⟩) hl
    obtain ⟨hpage', hsettings'⟩ := ih (Passage.finish_listening (p := ⟨now, step⟩) hl)
    exact ⟨hpage'.trans hpage, hsettings'.trans hsettings⟩

/-- A bus stays live, or stays without a node. -/
theorem target_after (hl : now.session.Listening) (steps : List (Step H)) (kind : BusKind) :
    (now.after steps).engine.mixer.target? kind = now.engine.mixer.target? kind := by
  unfold Mixer.target?
  rw [node_after hl, hasContext_after hl]

end Run

section Laws

variable {ps : List (Passage H)}

/-- What is offered to the graph is what its passage asks for. -/
theorem asked_of_wraps {p : Passage H} (hl : p.start.session.Listening)
    (htells : TellsAddresses p.exchanges) {id : SourceId} (h : wraps id p.exchanges ≠ 0) :
    id ∈ asked p.exchanges := by
  have hmem : ∃ reply, (⟨.wrapSource id, reply⟩ : Exchange) ∈ p.exchanges := by
    obtain ⟨⟨c, reply⟩, hx, hc⟩ := List.countP_pos_iff.mp (Nat.pos_of_ne_zero h)
    obtain rfl : c = .wrapSource id := of_decide_eq_true hc
    exact ⟨reply, hx⟩
  obtain ⟨reply, hx⟩ := hmem
  rw [mem_fetching rfl] at hx
  rcases Passage.fetched hl htells with hnone | ⟨i, address, kind, -, hfetched⟩
  · rw [hnone] at hx
    cases hx
  · obtain ⟨hmade, hrouting⟩ := hfetched.graph hx rfl
    obtain rfl : id = i := beq_iff_eq.mp hrouting
    rw [attempts_fetching] at hmade
    have hmem := List.mem_of_mem_filter (hmade ▸ List.mem_singleton_self _)
    exact List.mem_filterMap.mpr ⟨_, hmem, rfl⟩

theorem wraps_flatMap_eq_zero (hl : ∀ p ∈ ps, p.start.session.Listening)
    (htells : ∀ p ∈ ps, TellsAddresses p.exchanges) {id : SourceId}
    (hnew : id ∉ asked (ps.flatMap Passage.exchanges)) :
    wraps id (ps.flatMap Passage.exchanges) = 0 := by
  induction ps with
  | nil => rfl
  | cons p ps ih =>
    obtain ⟨hlp, hl⟩ := List.forall_mem_cons.mp hl
    obtain ⟨htp, htells⟩ := List.forall_mem_cons.mp htells
    rw [List.flatMap_cons, asked_append, List.mem_append, not_or] at hnew
    rw [List.flatMap_cons, wraps_append, ih hl htells hnew.2, Nat.add_zero]
    by_contra hwraps
    exact hnew.1 (asked_of_wraps hlp htp hwraps)

end Laws

/-- **What is done in the graph for a source is done where it is asked for**, and nowhere else in the
run. -/
theorem wraps_trace (settings : Settings) (host : H.State) (steps : List (Step H))
    (htells : TellsAddresses
      (exchangesOf ((Situation.opening settings host).after steps).session.chronicle))
    {p : Passage H} (hp : p ∈ (Situation.opening settings host).history steps) {id : SourceId}
    (hid : id ∈ asked p.exchanges) :
    wraps id (exchangesOf ((Situation.opening settings host).after steps).session.chronicle) =
      wraps id p.exchanges := by
  let start : Situation H := .opening settings host
  have hl : start.session.Listening := opening_listening settings host
  have hnodup : (asked (exchangesOf (start.after steps).session.chronicle)).Nodup := by
    have hasked := (asked_trace settings host steps).1
    rw [hasked]
    exact nodup_numbered _ _
  have htrace := trace_eq hl steps
  change TellsAddresses (exchangesOf (start.after steps).session.chronicle) at htells
  change wraps id (exchangesOf (start.after steps).session.chronicle) = _
  have hopening : wraps id (exchangesOf start.session.chronicle) = 0 := by
    refine List.countP_eq_zero.mpr fun x hx hwraps => ?_
    have hgeneral := building_calls (opening_unfolds settings host).2 x hx
    rw [of_decide_eq_true hwraps] at hgeneral
    exact absurd hgeneral Bool.false_ne_true
  -- the number is given out in `p`, so it is not given out before or later
  obtain ⟨before, later, hsplit⟩ := List.append_of_mem hp
  have hlaws : ∀ q ∈ start.history steps,
      q.start.session.Listening ∧ TellsAddresses q.exchanges := by
    intro q hq
    refine ⟨listening_of_mem_history hl hq, htells.mono fun x hx => ?_⟩
    rw [htrace]
    exact List.mem_append_right _ (List.mem_flatMap.mpr ⟨q, hq, hx⟩)
  rw [htrace, hsplit, List.flatMap_append, List.flatMap_cons, asked_append, asked_append,
    asked_append] at hnodup
  have hothers := (List.nodup_append.mp hnodup).2.1
  have hbefore : id ∉ asked (before.flatMap Passage.exchanges) := fun h =>
    (List.nodup_append.mp hothers).2.2 id h id (List.mem_append_left _ hid) rfl
  have hlater : id ∉ asked (later.flatMap Passage.exchanges) := fun h =>
    (List.nodup_append.mp (List.nodup_append.mp hothers).2.1).2.2 id hid id h rfl
  -- a run that does not give out the number wraps nothing under it
  have hquiet : ∀ ps : List (Passage H), (∀ q ∈ ps, q ∈ start.history steps) →
      id ∉ asked (ps.flatMap Passage.exchanges) → wraps id (ps.flatMap Passage.exchanges) = 0 :=
    fun ps hps => wraps_flatMap_eq_zero (fun q hq => (hlaws q (hps q hq)).1)
      fun q hq => (hlaws q (hps q hq)).2
  rw [htrace, hsplit, List.flatMap_append, List.flatMap_cons, wraps_append, wraps_append,
    wraps_append, hopening, hquiet before ?_ hbefore, hquiet later ?_ hlater, Nat.add_zero,
    Nat.zero_add, Nat.zero_add]
  · intro q hq
    rw [hsplit]
    exact List.mem_append_right _ (List.mem_cons_of_mem _ hq)
  · intro q hq
    rw [hsplit]
    exact List.mem_append_left _ hq

/-- The page that counts is told first of all. -/
theorem head?_trace (settings : Settings) (host : H.State) (steps : List (Step H)) :
    (exchangesOf ((Situation.opening settings host).after steps).session.chronicle).head? =
      some ⟨.pageAddress, (Situation.opening (H := H) settings host).engine.page⟩ := by
  let start : Situation H := .opening settings host
  have hB := (opening_unfolds settings host).2
  have hopening : (exchangesOf start.session.chronicle).head? =
      some ⟨.pageAddress, start.engine.page⟩ := by
    change Building settings start.engine start.session.chronicle at hB
    generalize start.engine = e, start.session.chronicle = L at hB
    cases hB <;> rfl
  have htrace := trace_eq (opening_listening settings host) steps
  rw [htrace, List.head?_append, hopening]
  rfl

/-- What a passage of a run builds and routes, in terms of the first engine: its page, its base and
the buses that live stay what they were. -/
theorem fetched_of_mem_history (settings : Settings) (host : H.State) (steps : List (Step H))
    (htells : TellsAddresses
      (exchangesOf ((Situation.opening settings host).after steps).session.chronicle))
    {p : Passage H} (hp : p ∈ (Situation.opening settings host).history steps) :
    fetching p.entries = [] ∨ ∃ id address kind, p.Wants settings.effectiveBase address kind ∧
      ∃ m : Mixer, (m.target? kind).isSome =
          ((Situation.opening (H := H) settings host).engine.mixer.target? kind).isSome ∧
        Fetched m (Situation.opening (H := H) settings host).engine.page id address kind
          (fetching p.entries) := by
  have hl := opening_listening (H := H) settings host
  have htells' : TellsAddresses p.exchanges := by
    refine htells.mono fun x hx => ?_
    rw [trace_eq hl]
    exact List.mem_append_right _ (List.mem_flatMap.mpr ⟨p, hp, hx⟩)
  obtain ⟨most, rest, -, hstart⟩ := mem_history hp
  obtain ⟨hsame, hsettings⟩ := fixed_after hl most
  have hbase : (Situation.opening (H := H) settings host).engine.settings = settings := by
    obtain ⟨_, _, he⟩ := opening_engine (H := H) settings host
    rw [he]
  rcases Passage.fetched (listening_of_mem_history hl hp) htells' with hnone |
    ⟨id, address, kind, hwants, hfetched⟩
  · exact .inl hnone
  · rw [hstart, hsettings, hbase] at hwants
    rw [hstart, hsame] at hfetched
    exact .inr ⟨id, address, kind, hwants, _, congrArg _ (target_after hl most kind), hfetched⟩

section Passages

variable {settings : Settings} {host : H.State} {steps : List (Step H)}
  (htells : TellsAddresses
    (exchangesOf ((Situation.opening settings host).after steps).session.chronicle))
  {p : Passage H} (hp : p ∈ (Situation.opening settings host).history steps)

include htells hp

/-- **A source that is asked for** is fetched for the sound that is wanted; it is offered to the graph if
it may enter it, and is left out as one from elsewhere if it may not. -/
theorem attempt_agrees {id : SourceId} {address : String} {mode : FetchMode}
    {reply : (Call.createSource id address mode).Reply}
    (hx : (⟨.createSource id address mode, reply⟩ : Exchange) ∈ p.exchanges) :
    let start : Situation H := .opening settings host
    let mixer := start.engine.mixer
    ∃ kind, p.Wants settings.effectiveBase address kind ∧ mode = .of start.engine.page address ∧
      (wraps id (exchangesOf (start.after steps).session.chronicle) =
        if reply.isOk = true ∧ mode = .standard ∧ mixer.hasContext = true ∧
          (mixer.buses.get kind).isLive = true then 1 else 0) ∧
      (p.Declines ↔ reply.isOk = true ∧ mode = .anonymous ∧ mixer.hasContext = true ∧
        (mixer.buses.get kind).isLive = true) := by
  intro start mixer
  -- nothing is done in the graph for the source but in the passage that asks for it
  have hasked : id ∈ asked p.exchanges := List.mem_filterMap.mpr ⟨_, hx, rfl⟩
  have hwraps : wraps id (exchangesOf (start.after steps).session.chronicle) =
      wraps id (exchangesOf (fetching p.entries)) :=
    (wraps_trace settings host steps htells hp hasked).trans (wraps_fetching id p.entries).symm
  rw [mem_fetching rfl] at hx
  rcases fetched_of_mem_history settings host steps htells hp with hnone |
    ⟨i, a, kind, hwants, m, htarget, hfetched⟩
  · rw [hnone] at hx
    cases hx
  · obtain ⟨rfl, rfl, hmode⟩ := hfetched.created hx
    refine ⟨kind, hwants, hmode, ?_, ?_⟩
    · rw [hwraps, hfetched.wraps hx]
      refine if_congr ?_ rfl rfl
      rw [htarget, Mixer.target?_isSome_iff]
    · rw [Passage.declines_iff, hfetched.declines hx, htarget, Mixer.target?_isSome_iff]

/-- **A step in the graph** is made for the one source that its passage asks for. -/
theorem graph_agrees {x : Exchange} (hx : x ∈ p.exchanges) (hgraph : x.call.isGraph = true) :
    ∃ id address, p.exchanges.filter Exchange.attempts =
      [⟨.createSource id address .standard, .ok ()⟩] ∧ x.call.isRouting id = true := by
  obtain ⟨c, reply⟩ := x
  have hkept : Entry.isFetching (.exchange c reply) = true := by
    cases c with
    | wrapSource | supportsStereoPan | createPanner | connect | connectBus => rfl
    | _ => exact absurd hgraph Bool.false_ne_true
  rw [mem_fetching hkept] at hx
  rcases fetched_of_mem_history settings host steps htells hp with hnone |
    ⟨id, address, kind, -, m, -, hfetched⟩
  · rw [hnone] at hx
    cases hx
  · obtain ⟨hmade, hrouting⟩ := hfetched.graph hx hgraph
    exact ⟨id, address, (attempts_fetching _).symm.trans hmade, hrouting⟩

/-- **What is left out as one from elsewhere** is the one source that its passage asks for. -/
theorem declined_agrees (hdeclines : p.Declines) :
    ∃ id address, p.exchanges.filter Exchange.attempts =
      [⟨.createSource id address .anonymous, .ok ()⟩] := by
  obtain ⟨bus, told, hdeclined⟩ := Passage.declines_iff.mp hdeclines
  rcases fetched_of_mem_history settings host steps htells hp with hnone |
    ⟨id, address, kind, -, m, -, hfetched⟩
  · rw [hnone] at hdeclined
    cases hdeclined
  · exact ⟨id, address, (attempts_fetching _).symm.trans (hfetched.anonymous hdeclined)⟩

end Passages

/-- **The mode of a source and its way into the graph agree.**  Over every host, from every
configuration and through every run in which sources tell the addresses that they were built for:

* the page that counts is the one that the host named in the beginning;
* whatever source is asked for, it is for the address of the sound that the operation wants, and
  without credentials if and only if that address is known to be from elsewhere;
* it is offered to the graph exactly once in the whole run if it was built, is fetched with credentials,
  and there is a context with a live bus for it, and never otherwise; it is left out as one from
  elsewhere just when it was built and is fetched without credentials while there is such a bus;
* every step in the graph is made in a passage for the one source that is asked for there, and this
  source was built and is fetched with credentials; where a source is left out as one from elsewhere,
  the one source that is asked for was built and is fetched without;
* if the page is not known, or the address cannot be read against it, then the source is fetched with
  credentials and is not left out as one from elsewhere. -/
theorem modes_match_routes (settings : Settings) (host : H.State) (steps : List (Step H))
    (htells : TellsAddresses
      (exchangesOf ((Situation.opening settings host).after steps).session.chronicle)) :
    let start : Situation H := .opening settings host
    let trace := exchangesOf (start.after steps).session.chronicle
    let page := start.engine.page
    let mixer := start.engine.mixer
    trace.head? = some ⟨.pageAddress, page⟩ ∧
    (∀ p ∈ start.history steps, ∀ id address mode reply,
      (⟨.createSource id address mode, reply⟩ : Exchange) ∈ p.exchanges →
      ∃ kind, p.Wants settings.effectiveBase address kind ∧
        (mode = .anonymous ↔ Url.isCrossOrigin page address = true) ∧
        (wraps id trace = if reply.isOk = true ∧ mode = .standard ∧ mixer.hasContext = true ∧
          (mixer.buses.get kind).isLive = true then 1 else 0) ∧
        (p.Declines ↔ reply.isOk = true ∧ mode = .anonymous ∧ mixer.hasContext = true ∧
          (mixer.buses.get kind).isLive = true) ∧
        ((∀ u, page = some u → Url.ofText? (some u) address = none) →
          mode = .standard ∧ ¬ p.Declines)) ∧
    (∀ p ∈ start.history steps, ∀ x ∈ p.exchanges, x.call.isGraph = true →
      ∃ id address, p.exchanges.filter Exchange.attempts =
          [⟨.createSource id address .standard, .ok ()⟩] ∧ x.call.isRouting id = true) ∧
    ∀ p ∈ start.history steps, p.Declines →
      ∃ id address, p.exchanges.filter Exchange.attempts =
        [⟨.createSource id address .anonymous, .ok ()⟩] := by
  intro start trace page mixer
  refine ⟨head?_trace settings host steps, ?_, fun p hp x hx => graph_agrees htells hp hx,
    fun p hp => declined_agrees htells hp⟩
  intro p hp id address mode reply hx
  obtain ⟨kind, hwants, hmode, hwraps, hdeclines⟩ := attempt_agrees htells hp hx
  refine ⟨kind, hwants, ?_, hwraps, hdeclines, fun hunread => ?_⟩
  · rw [hmode]
    exact fetchMode_anonymous_iff
  · -- an address that cannot be read is not known to be from elsewhere
    have hstandard : mode = .standard := by
      rw [hmode]
      exact fetchMode_standard_iff.mpr (isCrossOrigin_unread hunread)
    refine ⟨hstandard, fun h => ?_⟩
    have hanonymous := (hdeclines.mp h).2.1
    rw [hstandard] at hanonymous
    cases hanonymous

/-- On a stage with a page: a track from the same place is offered to the graph once, though it is
asked for again when it has been paused; an effect from elsewhere is not. -/
theorem modes_match_routes_stage :
    let march : Step Stage.host := .perform (.playMusic { name := "march.ogg" })
    let gong : Step Stage.host := .perform (.playEffect { name := "http://[::2]/gong.ogg" })
    let early := [march, .meanwhile (fun s => (Stage.pauseAt s ⟨1⟩ .zero false).1) [], march]
    let start : Situation Stage.host :=
      .opening .standard { script := { page := some "http://[::1]/" } }
    let trace := exchangesOf (start.after (early ++ [gong])).session.chronicle
    TellsAddresses trace ∧
    (⟨.createSource ⟨1⟩ "./sounds/march.ogg" .standard, .ok ()⟩ : Exchange) ∈
        Passage.exchanges ⟨start, march⟩ ∧ wraps ⟨1⟩ trace = 1 ∧
      (⟨.createSource ⟨2⟩ "http://[::2]/gong.ogg" .anonymous, .ok ()⟩ : Exchange) ∈
        Passage.exchanges ⟨start.after early, gong⟩ ∧ wraps ⟨2⟩ trace = 0 := by
  intro march gong early start trace
  have htells : TellsAddresses trace := by decide +kernel
  obtain ⟨mode, hmarch⟩ : ∃ mode, (⟨.createSource ⟨1⟩ "./sounds/march.ogg" mode, .ok ()⟩ : Exchange) ∈
      Passage.exchanges ⟨start, march⟩ := mem_built (by decide +kernel)
  obtain ⟨mode', hgong⟩ : ∃ mode,
      (⟨.createSource ⟨2⟩ "http://[::2]/gong.ogg" mode, .ok ()⟩ : Exchange) ∈
        Passage.exchanges ⟨start.after early, gong⟩ := mem_built (by decide +kernel)
  have hsame : Url.isCrossOrigin start.engine.page "./sounds/march.ogg" = false := by
    decide +kernel
  have hother : Url.isCrossOrigin start.engine.page "http://[::2]/gong.ogg" = true := by
    decide +kernel
  have hlive : start.engine.mixer.hasContext = true ∧
      ∀ kind, (start.engine.mixer.buses.get kind).isLive = true := by
    refine ⟨by decide +kernel, fun kind => ?_⟩
    cases kind <;> decide +kernel
  have hfirst : (⟨start, march⟩ : Passage Stage.host) ∈ start.history early := List.mem_cons_self
  clear_value march gong early
  -- the steps are names from here on, so that nothing runs them again
  have hsplit := history_snoc start early gong
  obtain ⟨-, hlaw, -⟩ := modes_match_routes (H := Stage.host) .standard _ (early ++ [gong]) htells
  have hmem : (⟨start, march⟩ : Passage Stage.host) ∈ start.history (early ++ [gong]) := by
    rw [hsplit]
    exact List.mem_append_left _ hfirst
  have hmem' : (⟨start.after early, gong⟩ : Passage Stage.host) ∈
      start.history (early ++ [gong]) := by
    rw [hsplit]
    exact List.mem_append_right _ List.mem_cons_self
  obtain ⟨kind, -, hmode, hwraps, -⟩ := hlaw _ hmem _ _ _ _ hmarch
  obtain ⟨kind', -, hmode', hwraps', -⟩ := hlaw _ hmem' _ _ _ _ hgong
  obtain rfl : mode = .standard := by
    cases mode with
    | standard => rfl
    | anonymous => exact absurd (hmode.mp rfl) (by rw [hsame]; exact Bool.false_ne_true)
  obtain rfl : mode' = .anonymous := hmode'.mpr hother
  refine ⟨htells, hmarch, ?_, hgong, ?_⟩
  · rw [hwraps, if_pos ⟨rfl, rfl, hlive.1, hlive.2 kind⟩]
  · rw [hwraps', if_neg (by simp)]

end SoundEngine
