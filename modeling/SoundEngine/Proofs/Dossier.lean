import SoundEngine.Proofs.Calls

/-!
# What is on file about a source

The calls of a run belong to many sources at once.  The DOSSIER of a source is what a list of
exchanges has about it, and this module says how it is made and which shapes it can have.

* §1 sorts exchanges by source.  A call that names a source goes with it; a step in the graph that
  names none goes with the source before it.  A BLOCK is a piece that is about one source from its
  first call on, and dossiers grow block by block (`dossier_append`).
* §2 is the protocol: what opens a dossier, what can come then, and what closes it.  Mere questions
  are not on file; whether a source is paused is, for a resumption hangs on it.
* §3 finds these shapes in the conduct of the engine.
-/

namespace SoundEngine

/-! ## 1. Whose call it is -/

/-- Whom a call is about, when `last` is whom the call before it was about. -/
def Call.owner (last : Option SourceId) (c : Call) : Option SourceId :=
  if c.isWiring then last else c.source?

/-- The call is put on file: it is no mere question, or it asks whether a source is paused. -/
def Call.tells : Call → Bool
  | .isPaused _ => true
  | c => !c.isQuestion

/-- The exchanges that are put on file. -/
def telling (X : List Exchange) : List Exchange := X.filter fun x => x.call.tells

@[simp] theorem telling_append (X Y : List Exchange) :
    telling (X ++ Y) = telling X ++ telling Y :=
  List.filter_append X Y

/-- What some exchanges put on file about a source, when `last` is whom the call before them was
about. -/
def filed (id : SourceId) : Option SourceId → List Exchange → List Exchange
  | _, [] => []
  | last, x :: X =>
    if x.call.owner last = some id ∧ x.call.tells then x :: filed id (x.call.owner last) X
    else filed id (x.call.owner last) X

theorem filed_cons (id : SourceId) (last : Option SourceId) (x : Exchange) (X : List Exchange) :
    filed id last (x :: X) =
      if x.call.owner last = some id ∧ x.call.tells then x :: filed id (x.call.owner last) X
      else filed id (x.call.owner last) X := rfl

/-- The dossier of a source: all that is on file about it, from the first call of a run on.  It has the
calls that do something to the source, with their answers, and the steps in the graph that go with it.
Of mere questions only one is on file, whether the source is paused. -/
def dossier (id : SourceId) (X : List Exchange) : List Exchange := filed id none X

/-- A piece of a run that is about one source from its first call on, or about none. -/
structure Block (owner : Option SourceId) (B : List Exchange) : Prop where
  head : ∀ x ∈ B.head?, x.call.isWiring = false
  about : ∀ x ∈ B, x.call.isWiring = false → x.call.source? = owner

theorem block_of_general {B : List Exchange} (h : ∀ x ∈ B, x.call.isGeneral = true) :
    Block none B := by
  refine ⟨fun x hx => ?_, fun x hx _ => Call.source?_of_isGeneral (h x hx)⟩
  have hg := h x (List.mem_of_mem_head? hx)
  obtain ⟨call, reply⟩ := x
  cases call <;> first | rfl | exact absurd hg Bool.false_ne_true

theorem block_attempt (id : SourceId) (address : String) (mode : FetchMode)
    (reply : Except PlaybackFailure Unit) :
    Block (some id) [⟨.createSource id address mode, reply⟩] :=
  ⟨by simp [Call.isWiring], by simp [Call.source?]⟩

/-- What a piece puts on file, after a call about the same source. -/
theorem filed_of_about {id : SourceId} {owner : Option SourceId} {B : List Exchange}
    (h : ∀ x ∈ B, x.call.isWiring = false → x.call.source? = owner) :
    filed id owner B = if owner = some id then telling B else [] := by
  induction B with
  | nil => split <;> rfl
  | cons x B ih =>
    have howner : x.call.owner owner = owner := by
      unfold Call.owner
      split
      case isTrue => rfl
      case isFalse hw => exact h x List.mem_cons_self (Bool.eq_false_iff.mpr hw)
    have hrest := ih fun y hy => h y (List.mem_cons_of_mem x hy)
    rw [filed_cons, howner, hrest]
    by_cases hid : owner = some id
    · simp only [hid, true_and, if_true]
      unfold telling
      rw [List.filter_cons]
    · simp only [hid, false_and, if_false]

theorem Block.filed {id : SourceId} {owner : Option SourceId} {B : List Exchange}
    (h : Block owner B) (last : Option SourceId) :
    filed id last B = if owner = some id then telling B else [] := by
  cases B with
  | nil => split <;> rfl
  | cons x B =>
    have hx : x.call.isWiring = false := h.head x rfl
    have howner : ∀ last, x.call.owner last = owner := fun last => by
      unfold Call.owner
      rw [if_neg (Bool.eq_false_iff.mp hx)]
      exact h.about x List.mem_cons_self hx
    rw [← filed_of_about h.about]
    rw [filed_cons, filed_cons, howner, howner]

theorem filed_append (id : SourceId) (last : Option SourceId) (X Y : List Exchange) :
    ∃ last', filed id last (X ++ Y) = filed id last X ++ filed id last' Y := by
  induction X generalizing last with
  | nil => exact ⟨last, rfl⟩
  | cons x X ih =>
    obtain ⟨last', h⟩ := ih (x.call.owner last)
    refine ⟨last', ?_⟩
    rw [List.cons_append, filed_cons, filed_cons, h]
    split <;> rfl

/-- **Dossiers grow block by block.** -/
theorem dossier_append {id : SourceId} {owner : Option SourceId} {B : List Exchange}
    (h : Block owner B) (X : List Exchange) :
    dossier id (X ++ B) = dossier id X ++ if owner = some id then telling B else [] := by
  obtain ⟨last, hX⟩ := filed_append id none X B
  rw [dossier, hX, h.filed]
  rfl

theorem filed_sublist (id : SourceId) (last : Option SourceId) (X : List Exchange) :
    (filed id last X).Sublist X := by
  induction X generalizing last with
  | nil => exact List.Sublist.slnil
  | cons x X ih =>
    rw [filed_cons]
    split
    · exact (ih _).cons_cons x
    · exact (ih _).cons x

theorem dossier_sublist (id : SourceId) (X : List Exchange) : (dossier id X).Sublist X :=
  filed_sublist id none X

/-- The exchange is put on file, and it names the source. -/
def Exchange.tells (id : SourceId) (x : Exchange) : Bool :=
  decide (x.call.source? = some id) && x.call.tells

theorem Exchange.tells_iff {id : SourceId} {x : Exchange} :
    x.tells id = true ↔ x.call.source? = some id ∧ x.call.tells = true := by
  unfold Exchange.tells
  rw [Bool.and_eq_true, decide_eq_true_iff]

/-- **What a source is told by name is all in its dossier**, and in the order of the run. -/
theorem filter_dossier {id : SourceId} {P : Exchange → Bool}
    (hP : ∀ x, P x = true → x.tells id = true) (X : List Exchange) :
    (dossier id X).filter P = X.filter P := by
  have hfiled : ∀ last, (filed id last X).filter P = X.filter P := by
    induction X with
    | nil => exact fun _ => rfl
    | cons x X ih =>
      intro last
      rw [filed_cons]
      by_cases hx : P x = true
      · obtain ⟨hs, ht⟩ := Exchange.tells_iff.mp (hP x hx)
        have howner : x.call.owner last = some id := by
          unfold Call.owner
          rw [if_neg (Bool.eq_false_iff.mp (Call.isWiring_of_source? hs)), hs]
        rw [if_pos ⟨howner, ht⟩, List.filter_cons_of_pos hx, List.filter_cons_of_pos hx, ih]
      · rw [List.filter_cons_of_neg hx]
        split
        · rw [List.filter_cons_of_neg hx, ih]
        · exact ih _
  exact hfiled none

theorem mem_dossier {id : SourceId} {x : Exchange} {X : List Exchange} (hx : x ∈ X)
    (ht : x.tells id = true) : x ∈ dossier id X := by
  have hmem : x ∈ X.filter (Exchange.tells id) := List.mem_filter.mpr ⟨hx, ht⟩
  rw [← filter_dossier fun _ h => h] at hmem
  exact (List.mem_filter.mp hmem).1

/-- The source was built, by these exchanges.  An attempt that failed has used its number up, and there is
no source of that number. -/
def Built (id : SourceId) (X : List Exchange) : Prop :=
  ∃ address mode, (⟨.createSource id address mode, .ok ()⟩ : Exchange) ∈ X

section Built

variable {id : SourceId} {X Y : List Exchange}

theorem Built.append_left (h : Built id X) (Y : List Exchange) : Built id (X ++ Y) := by
  obtain ⟨address, mode, hX⟩ := h
  exact ⟨address, mode, List.mem_append_left Y hX⟩

theorem Built.append_right (h : Built id Y) (X : List Exchange) : Built id (X ++ Y) := by
  obtain ⟨address, mode, hY⟩ := h
  exact ⟨address, mode, List.mem_append_right X hY⟩

theorem built_append : Built id (X ++ Y) ↔ Built id X ∨ Built id Y := by
  constructor
  · rintro ⟨address, mode, h⟩
    rcases List.mem_append.mp h with h | h
    · exact .inl ⟨address, mode, h⟩
    · exact .inr ⟨address, mode, h⟩
  · rintro (h | h)
    · exact h.append_left Y
    · exact h.append_right X

theorem Built.dossier (h : Built id X) : Built id (dossier id X) := by
  obtain ⟨address, mode, hx⟩ := h
  exact ⟨address, mode, mem_dossier hx (Exchange.tells_iff.mpr ⟨rfl, rfl⟩)⟩

theorem Built.telling (h : Built id X) : Built id (telling X) := by
  obtain ⟨address, mode, hx⟩ := h
  exact ⟨address, mode, List.mem_filter.mpr ⟨hx, rfl⟩⟩

end Built

/-! ## 2. The protocol -/

/-- The attempt to route a source, with whether it is attached then: wrapped once at most, and
connected with a bus, by way of a panner or not; the first step that fails ends the attempt. -/
inductive RoutingAttempt (id : SourceId) : Bool → List Exchange → Prop
  | none : RoutingAttempt id false []
  | notWrapped (failure : GraphFailure) :
      RoutingAttempt id false [⟨.wrapSource id, .error failure⟩]
  | plain (node : Node) (bus : BusNode) (joined : Except GraphFailure Unit) :
      RoutingAttempt id joined.isOk [⟨.wrapSource id, .ok node⟩, ⟨.connectBus node bus, joined⟩]
  | noPanner (node : Node) (pan : Single) (failure : GraphFailure) :
      RoutingAttempt id false
        [⟨.wrapSource id, .ok node⟩, ⟨.createPanner pan, .error failure⟩]
  | notConnected (node : Node) (pan : Single) (panner : Node) (failure : GraphFailure) :
      RoutingAttempt id false
        [⟨.wrapSource id, .ok node⟩, ⟨.createPanner pan, .ok panner⟩,
          ⟨.connect node panner, .error failure⟩]
  | panned (node : Node) (pan : Single) (panner : Node) (bus : BusNode)
      (joined : Except GraphFailure Unit) :
      RoutingAttempt id joined.isOk
        [⟨.wrapSource id, .ok node⟩, ⟨.createPanner pan, .ok panner⟩,
          ⟨.connect node panner, .ok ()⟩, ⟨.connectBus panner bus, joined⟩]

/-- The one volume that a source may be given after it was routed, if it is not attached. -/
inductive Fallback (id : SourceId) : Bool → List Exchange → Prop
  | none (attached : Bool) : Fallback id attached []
  | scaled (volume : Single) : Fallback id false [⟨.setVolume id volume, ()⟩]

/-- What an effect is told before it is routed. -/
def EffectRequest.levels (request : EffectRequest) (id : SourceId) : List Exchange :=
  [⟨.setVolume id request.volumeFactor, ()⟩, ⟨.setRate id request.rateFactor, ()⟩]

/-- What a track is told before it is routed. -/
def MusicRequest.levels (request : MusicRequest) (id : SourceId) : List Exchange :=
  [⟨.setLooping id request.loops, ()⟩, ⟨.setVolume id (Level.whole 1), ()⟩]

/-- What opens a dossier: the source is built, told to load, told its levels, routed, and asked to
play. -/
inductive Opening (id : SourceId) (levels : List Exchange) : List Exchange → Prop
  | opened {address : String} {mode : FetchMode} {attached : Bool} {A F : List Exchange}
      (hA : RoutingAttempt id attached A) (hF : Fallback id attached F)
      (reply : Except PlaybackFailure Unit) :
      Opening id levels
        (⟨.createSource id address mode, .ok ()⟩ :: ⟨.setPreload id true, ()⟩ ::
          (levels ++ (A ++ (F ++ [⟨.play id, reply⟩]))))

/-- What a resumption puts on file: the question whether the source is paused, and a request to play,
once, if and only if it is. -/
inductive Resumption (id : SourceId) : List Exchange → Prop
  | playing : Resumption id [⟨.isPaused id, false⟩]
  | paused (reply : Except PlaybackFailure Unit) :
      Resumption id [⟨.isPaused id, true⟩, ⟨.play id, reply⟩]

/-- What a halt puts on file: a pause, and a move to the beginning if and only if the pause succeeded,
whatever comes of the move. -/
inductive Halt (id : SourceId) : List Exchange → Prop
  | notPaused (failure : PlaybackFailure) : Halt id [⟨.pause id, .error failure⟩]
  | paused (reply : Except PlaybackFailure Unit) :
      Halt id [⟨.pause id, .ok ()⟩, ⟨.seek id .zero, reply⟩]

/-- The dossier of an effect, and whether it has been halted.  It is opened once, and may be closed by a
halt; there is no third thing that can happen to an effect. -/
inductive EffectCourse (id : SourceId) (request : EffectRequest) : Bool → List Exchange → Prop
  | opened {X : List Exchange} (h : Opening id (request.levels id) X) :
      EffectCourse id request false X
  | halted {X Y : List Exchange} (h : EffectCourse id request false X) (hY : Halt id Y) :
      EffectCourse id request true (X ++ Y)

/-- The dossier of a track, and whether it has been halted.  Between its opening and its halt it may be
resumed any number of times, and after the halt nothing is on file about it any more. -/
inductive MusicCourse (id : SourceId) (request : MusicRequest) : Bool → List Exchange → Prop
  | opened {X : List Exchange} (h : Opening id (request.levels id) X) :
      MusicCourse id request false X
  | resumed {X Y : List Exchange} (h : MusicCourse id request false X) (hY : Resumption id Y) :
      MusicCourse id request false (X ++ Y)
  | halted {X Y : List Exchange} (h : MusicCourse id request false X) (hY : Halt id Y) :
      MusicCourse id request true (X ++ Y)

/-! ## 3. The protocol in the conduct -/

namespace Conduct

variable {id : SourceId}

theorem starting_telling {start : Start} {S : List Entry} (h : Starting id start S) :
    ∃ reply, telling (exchangesOf S) = [⟨.play id, reply⟩] := by
  cases h with
  | accepted => exact ⟨.ok (), rfl⟩
  | refused failure => exact ⟨.error failure, rfl⟩

theorem halting_telling {L : List Entry} (h : Halting id L) :
    Halt id (telling (exchangesOf L)) := by
  cases h with
  | rewound => exact .paused (.ok ())
  | notPaused failure => exact .notPaused failure
  | notRewound failure => exact .paused (.error failure)

theorem resuming_telling {outcome : MusicOutcome} {L : List Entry} (h : Resuming id outcome L) :
    Resumption id (telling (exchangesOf L)) := by
  cases h with
  | playing => exact .playing
  | paused hS =>
    obtain ⟨reply, hX⟩ := starting_telling hS
    have hcons : ∀ S, telling (exchangesOf (.exchange (.isPaused id) true :: S)) =
        ⟨.isPaused id, true⟩ :: telling (exchangesOf S) := fun _ => rfl
    rw [hcons, hX]
    exact .paused reply

theorem chaining_telling {bus : BusNode} {pan : Single} {result : Except GraphFailure Route}
    {L : List Entry} (h : Chaining id bus pan result L) :
    RoutingAttempt id result.isOk (telling (exchangesOf L)) := by
  cases h with
  | notWrapped failure => exact .notWrapped failure
  | plain node joined =>
    cases joined with
    | error failure => exact .plain node bus (.error failure)
    | ok _ => exact .plain node bus (.ok ())
  | noPanner node failure => exact .noPanner node _ failure
  | notConnected node panner failure => exact .notConnected node _ panner failure
  | panned node panner joined =>
    cases joined with
    | error failure => exact .panned node _ panner bus (.error failure)
    | ok _ => exact .panned node _ panner bus (.ok ())

theorem attaching_telling {m : Mixer} {page : Option Url} {kind : BusKind} {pan : Single}
    {routing : Routing} {L : List Entry} (h : Attaching m page id kind pan routing L) :
    RoutingAttempt id routing.isAttached (telling (exchangesOf L)) := by
  cases h with
  | noBus => exact .none
  | crossOrigin => exact .none
  | attached _ _ hL => exact chaining_telling hL
  | failed _ _ hL => exact chaining_telling hL

theorem scaling_telling {m : Mixer} {kind : BusKind} {L : List Entry} (h : Scaling m id kind L) :
    Fallback id false (telling (exchangesOf L)) := by
  cases h with
  | live _ volume => exact .scaled _
  | inert => exact .none false

theorem routes_telling {m : Mixer} {page : Option Url} {kind : BusKind} {pan : Single}
    {routing : Routing} {R : List Entry} (h : Routes m page id kind pan routing R) :
    ∃ attached A F, RoutingAttempt id attached A ∧ Fallback id attached F ∧
      telling (exchangesOf R) = A ++ F := by
  cases h with
  | attached hL => exact ⟨_, _, _, attaching_telling hL, .none _, (List.append_nil _).symm⟩
  | direct hL hK address =>
    refine ⟨_, _, _, attaching_telling hL, scaling_telling hK, ?_⟩
    rw [exchangesOf_append, exchangesOf_append, telling_append, telling_append]
    congr 1
    exact List.append_nil _

/-- What a source can be told is about the source. -/
theorem block_of_calls {B : List Exchange} (hhead : ∀ x ∈ B.head?, x.call.isWiring = false)
    (h : ∀ x ∈ B, x.call.isRouting id = true ∨ x.call.source? = some id) : Block (some id) B := by
  refine ⟨hhead, fun x hx hw => ?_⟩
  rcases h x hx with hr | hs
  · obtain ⟨call, reply⟩ := x
    cases call with
    | sourceAddress | wrapSource | sourceVolume | setVolume =>
      exact congrArg some (beq_iff_eq.mp hr)
    | supportsStereoPan | createPanner | connect | connectBus =>
      exact absurd hw (by simp [Call.isWiring])
    | _ => exact absurd hr Bool.false_ne_true
  · exact hs

theorem halting_block {L : List Entry} (h : Halting id L) : Block (some id) (exchangesOf L) := by
  refine block_of_calls ?_ fun x hx => .inr ?_
  · cases h <;> simp [Call.isWiring]
  · rcases halting_calls h x hx with hc | hc | hc <;> rw [hc] <;> rfl

theorem resuming_block {outcome : MusicOutcome} {L : List Entry} (h : Resuming id outcome L) :
    Block (some id) (exchangesOf L) := by
  refine block_of_calls ?_ fun x hx => .inr ?_
  · cases h <;> simp [Call.isWiring]
  · rcases resuming_calls h x hx with hc | hc | hc <;> rw [hc] <;> rfl

/-- A source that is built, told its levels, routed and started. -/
theorem opening_telling {supply supply' : Supply} {page : Option Url} {address : String}
    {m : Mixer} {kind : BusKind} {pan : Single} {routing : Routing} {start : Start}
    {L R S : List Entry} (hL : Creating supply page address (.ok id, supply') L)
    (hR : Routes m page id kind pan routing R) (hS : Starting id start S) {levels : List Exchange}
    (hlevels : telling levels = levels) :
    Opening id levels
      (telling (exchangesOf L ++ (levels ++ (exchangesOf R ++ exchangesOf S)))) := by
  obtain ⟨rfl, -, hX⟩ := creating_ok hL
  obtain ⟨attached, A, F, hA, hF, hAF⟩ := routes_telling hR
  obtain ⟨reply, hreply⟩ := starting_telling hS
  rw [hX, telling_append, telling_append, telling_append, hlevels, hAF, hreply, List.append_assoc]
  exact .opened hA hF reply

theorem opening_block {supply supply' : Supply} {page : Option Url} {address : String}
    {m : Mixer} {kind : BusKind} {pan : Single} {routing : Routing} {start : Start}
    {L R S : List Entry} (hL : Creating supply page address (.ok id, supply') L)
    (hR : Routes m page id kind pan routing R) (hS : Starting id start S) {levels : List Exchange}
    (hlevels : ∀ x ∈ levels, x.call.source? = some id) :
    Block (some id) (exchangesOf L ++ (levels ++ (exchangesOf R ++ exchangesOf S))) := by
  obtain ⟨rfl, -, hX⟩ := creating_ok hL
  rw [hX]
  refine block_of_calls ?_ ?_
  · simp [Call.isWiring]
  · simp only [List.forall_mem_append]
    refine ⟨by simp [Call.source?], fun x hx => .inr (hlevels x hx), fun x hx => ?_, fun x hx => ?_⟩
    · exact .inl (routes_calls hR x hx)
    · rcases starting_calls hS x hx with hc | hc <;> rw [hc] <;> exact .inr rfl

/-- An effect that was played leaves a block that opens its dossier. -/
theorem effect_opened {supply supply' : Supply} {page : Option Url} {address : String} {m : Mixer}
    {request : EffectRequest} {routing : Routing} {start : Start} {L R S : List Entry}
    (hL : Creating supply page address (.ok id, supply') L)
    (hR : Routes m page id .effects request.panFactor routing R) (hS : Starting id start S)
    (r : Record) :
    let X := exchangesOf (L ++ (.exchange (.setVolume id request.volumeFactor) () ::
      .exchange (.setRate id request.rateFactor) () :: (R ++ (S ++ [.record r]))))
    Block (some id) X ∧ Opening id (request.levels id) (telling X) := by
  have hlevels : ∀ x ∈ request.levels id, x.call.source? = some id := by
    simp [EffectRequest.levels, Call.source?]
  have hB := opening_block hL hR hS hlevels
  have hT := opening_telling hL hR hS (show telling (request.levels id) = request.levels id from rfl)
  simpa [EffectRequest.levels] using And.intro hB hT

/-- So does a track that was started. -/
theorem track_opened {supply supply' : Supply} {page : Option Url} {address : String} {m : Mixer}
    {request : MusicRequest} {routing : Routing} {start : Start} {L R S : List Entry}
    (hL : Creating supply page address (.ok id, supply') L)
    (hR : Routes m page id .music .zero routing R) (hS : Starting id start S) (r : Record) :
    let X := exchangesOf (L ++ (.exchange (.setLooping id request.loops) () ::
      .exchange (.setVolume id (Level.whole 1)) () :: (R ++ (S ++ [.record r]))))
    Block (some id) X ∧ Opening id (request.levels id) (telling X) := by
  have hlevels : ∀ x ∈ request.levels id, x.call.source? = some id := by
    simp [MusicRequest.levels, Call.source?]
  have hB := opening_block hL hR hS hlevels
  have hT := opening_telling hL hR hS (show telling (request.levels id) = request.levels id from rfl)
  simpa [MusicRequest.levels] using And.intro hB hT

end Conduct

end SoundEngine
