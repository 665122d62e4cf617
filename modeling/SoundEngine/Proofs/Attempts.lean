import SoundEngine.Proofs.FetchModes

/-!
# Attaching a source, or falling back

A source is routed through its bus or left to play past it, and in the second case its volume may have
to be scaled, once.  Which of these happens, and what is done on the way, is settled here for every host.

* §1 has the mixers that there are.  Without a context they have no live bus (`Mixer.Arises.inert`); this
  is the one fact about them that is needed, for a source is scaled by the gain of a live bus without a
  look at the context.
* §2 is the attempt in the graph.  `Route.opened` is an attempt in which every step succeeds, and an
  attempt that fails is such a one `CutShort`: its steps up to the one that fails.
* §3 puts the volume beside it (`route_attaches_or_falls_back`).
* §4 asks what an attempt that fails leaves behind.  Wrapping comes first and cannot be undone, so if any
  later step fails, the source plays past the buses but is wrapped (`left_wrapped_iff`).
-/

namespace SoundEngine

open Conduct

variable {H : Host} {id : SourceId} {bus : BusNode} {pan : Single}

/-! ## 1. Mixers -/

/-- The mixers that there are: built in a session, with gains set any number of times.  Not every record
of the type is one of them; a mixer without a context, say, has no node in any of its buses. -/
inductive Mixer.Arises : Mixer → Prop
  | built {H : Host} (hasContext : Bool) (gains : Gains) (s : Session H) :
      Arises (Mixer.build hasContext gains s).1
  | set {H : Host} {m : Mixer} (h : Arises m) (kind : BusKind) (gain : Single) (s : Session H) :
      Arises (m.setGain kind gain s).1

/-- Without a context no bus has a node. -/
theorem Mixer.Arises.inert {m : Mixer} (hm : m.Arises) (hc : m.hasContext = false)
    (kind : BusKind) : (m.buses.get kind).node = none := by
  induction hm with
  | built hasContext gains s =>
    obtain ⟨L, -, hsame, hB⟩ := buildMixer_conduct hasContext gains s
    generalize (Mixer.build hasContext gains s).1 = m at hc hsame hB
    cases hB with
    | inert => cases kind <;> rfl
    | live => cases hc
  | @set _ m _ k gain s ih =>
    obtain ⟨L, -, heq, -⟩ := setGain_conduct m k gain s
    rw [heq] at hc ⊢
    rw [withGain_node]
    exact ih hc

theorem Mixer.target?_eq_some_iff {m : Mixer} {kind : BusKind} {node : BusNode} :
    m.target? kind = some node ↔ m.hasContext = true ∧ (m.buses.get kind).node = some node := by
  unfold Mixer.target?
  split <;> simp [*]

theorem Mixer.target?_eq_none_iff {m : Mixer} {kind : BusKind} :
    m.target? kind = none ↔ m.hasContext = false ∨ (m.buses.get kind).node = none := by
  unfold Mixer.target?
  split <;> simp [*]

/-! ## 2. The attempt in the graph -/

/-- The calls in the graph, with their answers. -/
def graphOf (X : List Exchange) : List Exchange := X.filter fun x => x.call.isGraph

/-- The failure of a step in the graph. -/
def Exchange.graphFailure? : Exchange → Option GraphFailure
  | ⟨.wrapSource _, .error failure⟩ | ⟨.createPanner _, .error failure⟩
  | ⟨.connect _ _, .error failure⟩ | ⟨.connectBus _ _, .error failure⟩ => some failure
  | _ => none

/-- What is done in the graph to open a route, if every step succeeds: there is a panner just when the
host says that it has them. -/
def Route.opened (id : SourceId) (bus : BusNode) (pan : Single) (route : Route) : List Exchange :=
  ⟨.wrapSource id, .ok route.source⟩ :: ⟨.supportsStereoPan, route.panner.isSome⟩ ::
    match route.panner with
    | some panner =>
      [⟨.createPanner (Level.pan pan), .ok panner⟩, ⟨.connect route.source panner, .ok ()⟩,
        ⟨.connectBus panner bus, .ok ()⟩]
    | none => [⟨.connectBus route.source bus, .ok ()⟩]

/-- Some steps done in their order until one fails, which is the last one.  The first list is how all of
them would have gone, the second one how far it went: the same up to the step that fails, which is made
with its failure for an answer, and nothing after it. -/
inductive CutShort (failure : GraphFailure) : List Exchange → List Exchange → Prop
  | here {call : Call} {reply reply' : call.Reply} {rest : List Exchange}
      (h : Exchange.graphFailure? ⟨call, reply'⟩ = some failure) :
      CutShort failure (⟨call, reply⟩ :: rest) [⟨call, reply'⟩]
  | later (x : Exchange) {rest X : List Exchange} (h : CutShort failure rest X) :
      CutShort failure (x :: rest) (x :: X)

theorem Route.opened_succeeds {route : Route} {x : Exchange}
    (hx : x ∈ route.opened id bus pan) : x.graphFailure? = none := by
  obtain ⟨node, panner⟩ := route
  cases panner <;> simp only [Route.opened, List.mem_cons, List.not_mem_nil, or_false] at hx
  · rcases hx with rfl | rfl | rfl <;> rfl
  · rcases hx with rfl | rfl | rfl | rfl | rfl <;> rfl

theorem CutShort.fails {failure : GraphFailure} {X Y : List Exchange} (h : CutShort failure X Y) :
    ∃ y ∈ Y, y.graphFailure? = some failure := by
  induction h with
  | here h => exact ⟨_, List.mem_singleton_self _, h⟩
  | later x _ ih =>
    obtain ⟨y, hy, hfails⟩ := ih
    exact ⟨y, List.mem_cons_of_mem x hy, hfails⟩

/-- **The chain is an attempt to open a route.**  It ends with the route it has opened, or with the
failure that cuts it short. -/
theorem Conduct.chaining_opens {result : Except GraphFailure Route} {L : List Entry}
    (h : Chaining id bus pan result L) :
    ∃ route, result = .ok route ∧ exchangesOf L = route.opened id bus pan ∨
      ∃ failure, result = .error failure ∧
        CutShort failure (route.opened id bus pan) (exchangesOf L) := by
  cases h with
  | notWrapped failure => exact ⟨⟨⟨""⟩, none⟩, .inr ⟨failure, rfl, .here rfl⟩⟩
  | plain node joined =>
    refine ⟨⟨node, none⟩, ?_⟩
    cases joined with
    | ok _ => exact .inl ⟨rfl, rfl⟩
    | error failure => exact .inr ⟨failure, rfl, .later _ (.later _ (.here rfl))⟩
  | noPanner node failure =>
    exact ⟨⟨node, some node⟩, .inr ⟨failure, rfl, .later _ (.later _ (.here rfl))⟩⟩
  | notConnected node panner failure =>
    exact ⟨⟨node, some panner⟩, .inr ⟨failure, rfl, .later _ (.later _ (.later _ (.here rfl)))⟩⟩
  | panned node panner joined =>
    refine ⟨⟨node, some panner⟩, ?_⟩
    cases joined with
    | ok _ => exact .inl ⟨rfl, rfl⟩
    | error failure =>
      exact .inr ⟨failure, rfl, .later _ (.later _ (.later _ (.later _ (.here rfl))))⟩

/-- The chain is done in the graph altogether. -/
theorem Conduct.chaining_graph {result : Except GraphFailure Route} {L : List Entry}
    (h : Chaining id bus pan result L) : graphOf (exchangesOf L) = exchangesOf L := by
  cases h <;> rfl

/-- With a live bus, an attempt begins with the address that the source tells.  If that is from
elsewhere there is no more to it, and otherwise it goes on to open a route. -/
theorem Conduct.attaching_opens {m : Mixer} {page : Option Url} {kind : BusKind}
    {routing : Routing} {A : List Entry} (h : Attaching m page id kind pan routing A)
    (htarget : m.target? kind = some bus) :
    ∃ told K, A = .exchange (.sourceAddress id) told :: K ∧
      (Url.isCrossOrigin page told = true ∧ routing = .direct .crossOrigin ∧
          graphOf (exchangesOf A) = [] ∨
        Url.isCrossOrigin page told = false ∧ ∃ route,
          routing = .attached route ∧ graphOf (exchangesOf A) = route.opened id bus pan ∨
          ∃ failure, routing = .direct (.graph failure) ∧
            CutShort failure (route.opened id bus pan) (graphOf (exchangesOf A))) := by
  -- asking for the address is nothing in the graph
  have hgraph {told : String} {result : Except GraphFailure Route} {K : List Entry}
      (hK : Chaining id bus pan result K) :
      graphOf (exchangesOf (.exchange (.sourceAddress id) told :: K)) = exchangesOf K :=
    chaining_graph hK
  cases h with
  | noBus h => cases htarget.symm.trans h
  | crossOrigin h hforeign => exact ⟨_, [], rfl, .inl ⟨hforeign, rfl, rfl⟩⟩
  | @attached bus' told route K h hsame hK =>
    cases htarget.symm.trans h
    obtain ⟨route', ⟨hroute, hopened⟩ | ⟨_, herror, _⟩⟩ := chaining_opens hK
    · cases hroute
      exact ⟨told, K, rfl, .inr ⟨hsame, route, .inl ⟨rfl, (hgraph hK).trans hopened⟩⟩⟩
    · cases herror
  | @failed bus' told failure K h hsame hK =>
    cases htarget.symm.trans h
    obtain ⟨route, ⟨hroute, _⟩ | ⟨_, herror, hcut⟩⟩ := chaining_opens hK
    · cases hroute
    · cases herror
      exact ⟨told, K, rfl, .inr ⟨hsame, route, .inr ⟨failure, rfl, (hgraph hK).symm ▸ hcut⟩⟩⟩

theorem mem_graphOf {x : Exchange} {X : List Exchange} :
    x ∈ graphOf X ↔ x ∈ X ∧ x.call.isGraph = true :=
  List.mem_filter

/-! ## 3. Attached, or left to play past the buses -/

/-- The calls that ask for a volume or set one, with their answers. -/
def volumesOf (X : List Exchange) : List Exchange :=
  X.filter fun x => match x.call with
    | .sourceVolume _ | .setVolume _ _ => true
    | _ => false

@[simp] theorem graphOf_append (X Y : List Exchange) : graphOf (X ++ Y) = graphOf X ++ graphOf Y :=
  List.filter_append X Y

@[simp] theorem volumesOf_append (X Y : List Exchange) :
    volumesOf (X ++ Y) = volumesOf X ++ volumesOf Y :=
  List.filter_append X Y

/-- The volume of a source is asked for and set, once, to what it was times a gain, and no other volume is
asked for or set: this is how a source that is left out of the graph heeds its bus. -/
def ScaledOnce (id : SourceId) (gain : Single) (X : List Exchange) : Prop :=
  ∃ volume, volumesOf X = [⟨.sourceVolume id, volume⟩, ⟨.setVolume id (volume.mul gain), ()⟩]

namespace Conduct

variable {m : Mixer} {page : Option Url} {kind : BusKind} {routing : Routing} {L : List Entry}

theorem chaining_volumes {result : Except GraphFailure Route} (h : Chaining id bus pan result L) :
    volumesOf (exchangesOf L) = [] := by
  cases h <;> rfl

theorem attaching_volumes (h : Attaching m page id kind pan routing L) :
    volumesOf (exchangesOf L) = [] := by
  cases h with
  | noBus | crossOrigin => rfl
  | attached _ _ hL | failed _ _ hL =>
    have hnone := chaining_volumes hL
    exact hnone

theorem scaling_graph (h : Scaling m id kind L) : graphOf (exchangesOf L) = [] := by
  cases h <;> rfl

/-- Routing begins with the attempt, and adds nothing in the graph to it. -/
theorem routes_attempt (h : Routes m page id kind pan routing L) :
    ∃ A, A <+: L ∧ Attaching m page id kind pan routing A ∧
      graphOf (exchangesOf L) = graphOf (exchangesOf A) := by
  cases h with
  | attached hL => exact ⟨L, List.prefix_rfl, hL, rfl⟩
  | @direct reason A K hL hK address =>
    refine ⟨A, List.prefix_append A _, hL, ?_⟩
    rw [exchangesOf_append, graphOf_append, exchangesOf_append, graphOf_append, scaling_graph hK]
    exact List.append_nil _

theorem routes_attached_volumes {route : Route}
    (h : Routes m page id kind pan (.attached route) L) : volumesOf (exchangesOf L) = [] := by
  cases h with
  | attached hL => exact attaching_volumes hL

/-- Falling back scales the volume, if the bus is live. -/
theorem routes_direct_volumes {reason : DirectReason}
    (h : Routes m page id kind pan (.direct reason) L) :
    if (m.buses.get kind).isLive = true then ScaledOnce id (m.buses.get kind).gain (exchangesOf L)
    else volumesOf (exchangesOf L) = [] := by
  cases h with
  | @direct _ A K hL hK address =>
    have hvolumes : volumesOf (exchangesOf (A ++ (K ++ [.exchange (.sourceAddress id) address,
        .record (.unrouted kind address reason)]))) = volumesOf (exchangesOf K) := by
      rw [exchangesOf_append, volumesOf_append, attaching_volumes hL, exchangesOf_append,
        volumesOf_append]
      exact List.append_nil _
    unfold ScaledOnce
    rw [hvolumes]
    cases hK with
    | live hlive volume =>
      rw [if_pos hlive]
      exact ⟨volume, rfl⟩
    | inert hinert =>
      rw [if_neg (by simp [hinert])]
      rfl

end Conduct

/-- The first answer of a session that unfolds is what the host answers as it stands. -/
theorem Session.Unfolds.first {s t : Session H} {call : Call} {reply : call.Reply} {L : List Entry}
    (h : s.Unfolds (.exchange call reply :: L) t) : reply = (H.answer call s.host).1 := by
  cases h with
  | ask _ _ => rfl

/-- **Attached, or left to play past the buses, and never something between.**  For every host and
every mixer that there is:

* without a context, or without a node for the bus, nothing is done in the graph and the volume is not
  touched;
* with a live bus, a source whose address is from elsewhere is kept out of the graph, and its volume is
  scaled once by the gain of the bus;
* with a live bus, any other source is tried in the graph, step by step, until all steps have succeeded
  or one fails.  It is attached, by the nodes that were made, if all have succeeded, and then its volume
  is not touched; otherwise it is left with the failure, and its volume is scaled once. -/
theorem route_attaches_or_falls_back {m : Mixer} (hm : m.Arises) (page : Option Url)
    (id : SourceId) (kind : BusKind) (pan : Single) (s : Session H) :
    let bus := m.buses.get kind
    let routing := (m.route page id kind pan s).1
    let foreign := Url.isCrossOrigin page (H.answer (.sourceAddress id) s.host).1
    ∃ L, s.Unfolds L (m.route page id kind pan s).2 ∧
      (∀ x ∈ exchangesOf L, x.call.isRouting id = true) ∧
      (m.hasContext = false ∨ bus.node = none →
        routing = .direct .noGraph ∧ graphOf (exchangesOf L) = [] ∧
          volumesOf (exchangesOf L) = []) ∧
      ∀ node, m.hasContext = true → bus.node = some node →
        (foreign = true →
          routing = .direct .crossOrigin ∧ graphOf (exchangesOf L) = [] ∧
            ScaledOnce id bus.gain (exchangesOf L)) ∧
        (foreign = false →
          (routing.isAttached = true ↔
            ∀ x ∈ graphOf (exchangesOf L), x.graphFailure? = none) ∧
          ∃ route,
            routing = .attached route ∧
              graphOf (exchangesOf L) = route.opened id node pan ∧
              volumesOf (exchangesOf L) = [] ∨
            ∃ failure, routing = .direct (.graph failure) ∧
              CutShort failure (route.opened id node pan) (graphOf (exchangesOf L)) ∧
              ScaledOnce id bus.gain (exchangesOf L)) := by
  intro bus routing foreign
  obtain ⟨L, hL, hR⟩ := route_conduct (H := H) m page id kind pan s
  refine ⟨L, hL, routes_calls hR, ?_⟩
  obtain ⟨A, ⟨tail, rfl⟩, hA, hgraph⟩ := routes_attempt hR
  rw [hgraph]
  change Routes m page id kind pan routing _ at hR
  change Attaching m page id kind pan routing A at hA
  -- the address that decides is the one that the source tells first
  have hfirst {told : String} {A' : List Entry} (h : A = .exchange (.sourceAddress id) told :: A') :
      Url.isCrossOrigin page told = foreign := by
    rw [h] at hL
    exact congrArg (Url.isCrossOrigin page) hL.first
  generalize routing = r at hR hA ⊢
  -- without a live bus nothing is tried, and with one it is the address that decides
  refine ⟨fun hnone => ?_, fun node hc hnode => ?_⟩
  · have htarget : m.target? kind = none := Mixer.target?_eq_none_iff.mpr hnone
    have hinert : ¬ bus.isLive = true := by
      rcases hnone with hc | hn
      · simp [Bus.isLive, bus, hm.inert hc kind]
      · simp [Bus.isLive, hn]
    cases hA with
    | noBus =>
      have hvolumes := routes_direct_volumes hR
      rw [if_neg hinert] at hvolumes
      exact ⟨rfl, rfl, hvolumes⟩
    | crossOrigin h | attached h | failed h => cases htarget.symm.trans h
  · have htarget : m.target? kind = some node := Mixer.target?_eq_some_iff.mpr ⟨hc, hnode⟩
    have hlive : bus.isLive = true := by simp [Bus.isLive, hnode]
    have hscaled {reason : DirectReason} (h : r = .direct reason) :
        ScaledOnce id bus.gain (exchangesOf (A ++ tail)) := by
      subst h
      have hvolumes := routes_direct_volumes hR
      rwa [if_pos hlive] at hvolumes
    obtain ⟨told, K, hbegin, hcases⟩ := attaching_opens hA htarget
    rw [← hfirst hbegin]
    rcases hcases with ⟨hforeign, rfl, hnone⟩ | ⟨hsame, route, hopens⟩
    · rw [hforeign]
      exact ⟨fun _ => ⟨rfl, hnone, hscaled rfl⟩, fun h => (nomatch h)⟩
    · rw [hsame]
      refine ⟨fun h => (nomatch h), fun _ => ?_⟩
      rcases hopens with ⟨rfl, hopened⟩ | ⟨failure, rfl, hcut⟩
      · refine ⟨⟨fun _ x hx => ?_, fun _ => rfl⟩, route,
          .inl ⟨rfl, hopened, routes_attached_volumes hR⟩⟩
        exact Route.opened_succeeds (hopened ▸ hx)
      · refine ⟨⟨fun h => (nomatch h), fun hall => ?_⟩, route,
          .inr ⟨failure, rfl, hcut, hscaled rfl⟩⟩
        obtain ⟨y, hy, hfails⟩ := hcut.fails
        cases (hall y hy).symm.trans hfails

/-- On a stage where nothing can be connected with a bus, a source is wrapped and panned and then left
to play past the buses, at its volume times the gain of the bus. -/
theorem route_falls_back_stage :
    let opening : Session Stage.host := .fresh {
      script := { connectBusFailure := some (.connection "SyntaxError") }
      media := [{ source := ⟨1⟩, address := "./sounds/chip.ogg", mode := .standard }] }
    let m := (Mixer.build true .standard opening).1
    let s := (Mixer.build true .standard opening).2
    m.Arises ∧ ∃ L, s.Unfolds L (m.route none ⟨1⟩ .music (Level.whole 2) s).2 ∧
      (m.route none ⟨1⟩ .music (Level.whole 2) s).1 = .direct (.graph (.connection "SyntaxError")) ∧
      ScaledOnce ⟨1⟩ (m.gain .music) (exchangesOf L) := by
  intro opening m s
  have hm : m.Arises := .built true .standard opening
  have hdirect : (m.route none ⟨1⟩ .music (Level.whole 2) s).1 =
      .direct (.graph (.connection "SyntaxError")) := by decide +kernel
  have hsame : Url.isCrossOrigin none (Stage.host.answer (.sourceAddress ⟨1⟩) s.host).1 = false :=
    rfl
  have hlive : m.hasContext = true ∧ (m.buses.get .music).node = some ⟨1⟩ := by decide +kernel
  obtain ⟨L, hL, -, -, h⟩ := route_attaches_or_falls_back hm none ⟨1⟩ .music (Level.whole 2) s
  obtain ⟨-, route, ⟨hroute, -⟩ | ⟨failure, -, -, hscaled⟩⟩ := (h ⟨1⟩ hlive.1 hlive.2).2 hsame
  · cases hdirect.symm.trans hroute
  · exact ⟨hm, L, hL, hdirect, hscaled⟩

/-! ## 4. What an attempt that fails leaves behind -/

theorem CutShort.planned {failure : GraphFailure} {X Y : List Exchange}
    (h : CutShort failure X Y) : ∀ y ∈ Y, ∃ x ∈ X, y.call = x.call := by
  induction h with
  | here => simp
  | @later x rest Y _ ih =>
    intro y hy
    rcases List.mem_cons.mp hy with rfl | hy
    · exact ⟨y, List.mem_cons_self, rfl⟩
    · obtain ⟨z, hz, hcall⟩ := ih y hy
      exact ⟨z, List.mem_cons_of_mem x hz, hcall⟩

/-- A source was wrapped in these exchanges. -/
def Wrapped (id : SourceId) (X : List Exchange) : Prop :=
  ∃ node, (⟨.wrapSource id, .ok node⟩ : Exchange) ∈ X

/-- A step that comes behind the wrapping of a source has failed in these exchanges.  That is too late: a
source cannot be unwrapped, so that it stays in a graph that leads nowhere. -/
def FailedLate (X : List Exchange) : Prop :=
  ∃ x ∈ X, x.call.isWiring = true ∧ ∃ failure, x.graphFailure? = some failure

/-- **An attempt cut short has wrapped the source unless the wrapping itself has failed.** -/
theorem CutShort.wrapped_iff {failure : GraphFailure} {route : Route} {X : List Exchange}
    (h : CutShort failure (route.opened id bus pan) X) : Wrapped id X ↔ FailedLate X := by
  have hwiring : ∀ x ∈ (route.opened id bus pan).tail, x.call.isWiring = true := by
    obtain ⟨node, panner⟩ := route
    cases panner <;> simp [Route.opened, Call.isWiring]
  cases h with
  | @here _ _ reply _ hfails =>
    constructor
    · rintro ⟨node, hmem⟩
      cases List.mem_singleton.mp hmem
      cases hfails
    · rintro ⟨x, hx, hlate, -⟩
      cases List.mem_singleton.mp hx
      cases hlate
  | @later _ _ Y hY =>
    refine ⟨fun _ => ?_, fun _ => ⟨route.source, List.mem_cons_self⟩⟩
    obtain ⟨y, hy, hfails⟩ := hY.fails
    obtain ⟨x, hx, hcall⟩ := hY.planned y hy
    exact ⟨y, List.mem_cons_of_mem _ hy, hcall ▸ hwiring x hx, failure, hfails⟩

/-- Both can be told from what is done in the graph. -/
theorem wrapped_graphOf (X : List Exchange) : Wrapped id (graphOf X) ↔ Wrapped id X := by
  simp [Wrapped, mem_graphOf, Call.isGraph]

theorem failedLate_graphOf (X : List Exchange) : FailedLate (graphOf X) ↔ FailedLate X := by
  unfold FailedLate
  refine exists_congr fun x => ?_
  rw [mem_graphOf, and_assoc]
  refine and_congr_right fun _ => ⟨fun h => h.2, fun h => ⟨?_, h⟩⟩
  have hwiring := h.1
  generalize x.call = c at hwiring ⊢
  cases c <;> first | rfl | exact hwiring

theorem Conduct.attaching_direct {m : Mixer} {page : Option Url} {kind : BusKind}
    {reason : DirectReason} {A : List Entry} (h : Attaching m page id kind pan (.direct reason) A) :
    Wrapped id (exchangesOf A) ↔ FailedLate (exchangesOf A) := by
  cases htarget : m.target? kind with
  | none =>
    cases h with
    | noBus => simp [Wrapped, FailedLate]
    | crossOrigin h | failed h => cases htarget.symm.trans h
  | some bus =>
    obtain ⟨told, K, rfl, ⟨-, -, hnone⟩ | ⟨-, route, ⟨hroute, -⟩ | ⟨failure, -, hcut⟩⟩⟩ :=
      attaching_opens h htarget
    · rw [← wrapped_graphOf, ← failedLate_graphOf, hnone]
      simp [Wrapped, FailedLate]
    · cases hroute
    · rw [← wrapped_graphOf, ← failedLate_graphOf]
      exact hcut.wrapped_iff

/-- **What an attempt that fails leaves behind.**  Over every host, and for every way of being left to
play past the buses, in an attempt to attach alone and in routing as a whole: the source has been
wrapped if and only if a step behind the wrapping has failed.  So it stays outside the graph as long as
panners and connections do not fail, and it does not if one of them does. -/
theorem left_wrapped_iff (m : Mixer) (page : Option Url) (id : SourceId) (kind : BusKind)
    (pan : Single) :
    Leaves (H := H) (m.attach page id kind pan) (fun routing L =>
      ∀ reason, routing = .direct reason →
        (Wrapped id (exchangesOf L) ↔ FailedLate (exchangesOf L))) ∧
    Leaves (H := H) (m.route page id kind pan) (fun routing L =>
      ∀ reason, routing = .direct reason →
        (Wrapped id (exchangesOf L) ↔ FailedLate (exchangesOf L))) := by
  refine ⟨leaves_mono (attach_conduct m page id kind pan) fun routing A hA => ?_,
    leaves_mono (route_conduct m page id kind pan) fun routing L hR => ?_⟩
  · rintro reason rfl
    exact attaching_direct hA
  · rintro reason rfl
    obtain ⟨A, -, hA, hgraph⟩ := routes_attempt hR
    rw [← wrapped_graphOf, ← failedLate_graphOf, hgraph, wrapped_graphOf, failedLate_graphOf]
    exact attaching_direct hA

/-- A stage with one source, where panners cannot be made. -/
def pannerlessStage : Session Stage.host := .fresh {
  script := { pannerFailure := some (.nodeCreation "stereo panner" "NotSupportedError") }
  media := [{ source := ⟨1⟩, address := "./sounds/chip.ogg", mode := .standard }] }

/-- On such a stage the step behind the wrapping fails, so the source has been wrapped. -/
theorem left_wrapped_pannerless :
    let m := (Mixer.build true .standard pannerlessStage).1
    let s := (Mixer.build true .standard pannerlessStage).2
    (m.attach none ⟨1⟩ .effects .zero s).1 =
        .direct (.graph (.nodeCreation "stereo panner" "NotSupportedError")) ∧
      ∃ L, s.Unfolds L (m.attach none ⟨1⟩ .effects .zero s).2 ∧ Wrapped ⟨1⟩ (exchangesOf L) := by
  intro m s
  have hdirect : (m.attach none ⟨1⟩ .effects .zero s).1 =
      .direct (.graph (.nodeCreation "stereo panner" "NotSupportedError")) := by decide +kernel
  have hrun : exchangesOf (m.attach none ⟨1⟩ .effects .zero s).2.chronicle =
      exchangesOf s.chronicle ++ [⟨.sourceAddress ⟨1⟩, "./sounds/chip.ogg"⟩,
        ⟨.wrapSource ⟨1⟩, .ok ⟨"media:1"⟩⟩, ⟨.supportsStereoPan, true⟩,
        ⟨.createPanner (Level.pan .zero),
          .error (.nodeCreation "stereo panner" "NotSupportedError")⟩] := rfl
  have hlistening : s.Listening := ⟨[], rfl⟩
  obtain ⟨L, hL, h⟩ := (left_wrapped_iff m none ⟨1⟩ .effects .zero).1 s
  rw [hL.chronicle hlistening, exchangesOf_append] at hrun
  have hentries := List.append_cancel_left hrun
  refine ⟨hdirect, L, hL, (h _ hdirect).mpr ?_⟩
  rw [hentries]
  exact ⟨_, List.mem_of_mem_getLast? rfl, rfl, _, rfl⟩

/-- On such a stage the attempt is declined, but the source does not stay outside the graph: it is
wrapped, and cannot be wrapped again when it is tried anew. -/
theorem declined_source_left_wrapped :
    let m := (Mixer.build true .standard pannerlessStage).1
    let s := (Mixer.build true .standard pannerlessStage).2
    let t := (m.attach none ⟨1⟩ .effects .zero s).2
    (m.attach none ⟨1⟩ .effects .zero s).1.isAttached = false ∧
      (s.host.find? ⟨1⟩).map Stage.Media.attached = some false ∧
      (t.host.find? ⟨1⟩).map Stage.Media.attached = some true ∧
      (m.attach none ⟨1⟩ .effects .zero t).1 = .direct (.graph .alreadyAttached) := by
  decide +kernel

end SoundEngine
