import SoundEngine.Proofs.Addresses
import SoundEngine.Proofs.FetchModes

/-!
# Relative names stay with the page

A name that is no address is put behind the base.  If the base is relative too then the sound comes from
where the page comes from, whatever characters the name has: there may be a colon in it, a mark, a
backslash, or tabs and line ends, which do not count in an address.

None of this matters, because the address begins with a dot and a slash, and both of them count
(`significant_dotted`).  A dot begins no scheme, so the address is read against the page; and it is not a
slash, so that no server can follow (`inherited?_dotted`).  What is left is the page itself, or a file
beside a file, or nothing that can be read.

* §1 reads such an address against a page.
* §2 follows it into the engine (`relative_names_stay`).
-/

namespace SoundEngine

/-! ## 1. Addresses that begin with a dot and a slash -/

/-- A dot and a slash. -/
def besides : List Char := ['.', '/']

namespace Url

theorem significant_dotted (s : List Char) : ∃ rest, significant ('.' :: '/' :: s) = '.' :: '/' :: rest := by
  have hfront : ('.' :: '/' :: s).dropWhile isEdge = '.' :: '/' :: s := rfl
  -- the two characters stop the search for the end of the address
  obtain ⟨kept, hback⟩ : ∃ kept,
      ('.' :: '/' :: s).reverse.dropWhile isEdge = kept ++ ['/', '.'] := by
    have hreverse : ('.' :: '/' :: s).reverse = s.reverse ++ ['/', '.'] := by simp
    rw [hreverse, List.dropWhile_append]
    split
    · exact ⟨[], rfl⟩
    · exact ⟨_, rfl⟩
  refine ⟨kept.reverse.filter fun c => !isIgnored c, ?_⟩
  unfold significant
  rw [hfront, hback, List.reverse_append]
  rfl

theorem splitScheme?_dotted (s : List Char) : splitScheme? ('.' :: s) = none := rfl

/-- **Read against a page, it stays there.** -/
theorem inherited?_dotted {page target : Url} {s : List Char}
    (h : inherited? page ('.' :: '/' :: s) = some target) : target = page := by
  have hstays : relative? page ('.' :: '/' :: s) = some page := by
    have hslash : isSlash '.' = false := by decide
    unfold relative?
    rw [List.dropWhile_cons_of_neg (by simp [hslash])]
    exact if_pos (by omega)
  have hfile : file? ('.' :: '/' :: s) = some .file := rfl
  unfold inherited? at h
  rw [if_neg (by simp)] at h
  cases page with
  | flat scheme path => cases h
  | file =>
    rw [hfile] at h
    exact (Option.some.inj h).symm
  | served server =>
    rw [hstays] at h
    exact (Option.some.inj h).symm
  | layered scheme =>
    rw [hstays] at h
    exact (Option.some.inj h).symm

/-- **It is never known to be from elsewhere.** -/
theorem isCrossOrigin_dotted (page : Option Url) {address : String}
    (h : besides <+: address.toList) : isCrossOrigin page address = false := by
  obtain ⟨s, hs⟩ := h
  obtain ⟨rest, hrest⟩ := significant_dotted s
  cases page with
  | none => rfl
  | some page =>
    have hsignificant : significant address.toList = '.' :: '/' :: rest := by
      rw [← hs]
      exact hrest
    have hread : ofText? (some page) address = inherited? page ('.' :: '/' :: rest) := by
      unfold ofText?
      dsimp only
      rw [hsignificant, splitScheme?_dotted]
      rfl
    unfold isCrossOrigin
    dsimp only
    rw [hread]
    cases htarget : inherited? page ('.' :: '/' :: rest) with
    | none => rfl
    | some target =>
      rw [inherited?_dotted htarget]
      exact bne_self_eq_false _

end Url

/-! ## 2. The sounds of an engine -/

namespace Address

/-- The base is relative to the page: it is not given, so that the standard one is used, or it begins with
a dot and a slash. -/
def IsBeside (base : String) : Prop := base = "" ∨ besides <+: base.toList

instance (base : String) : Decidable (IsBeside base) := inferInstanceAs (Decidable (_ ∨ _))

theorem IsBeside.standard {base : String} (h : IsBeside base) :
    besides <+: (baseOrStandard base).toList := by
  unfold baseOrStandard
  split
  · decide
  · next hne => exact h.resolve_left hne

/-- What is put behind such a base begins as it does, even if nothing but the dot is left of it. -/
theorem besides_join {base : String} (h : IsBeside base) (name : String) :
    besides <+: (join base name).toList := by
  obtain ⟨slashes, hslashes, hbase⟩ := eq_append_dropped (baseOrStandard base).toList
  obtain ⟨rest, hrest⟩ := h.standard
  rw [toList_join, stem, String.toList_ofList]
  rw [← hrest] at hbase ⊢
  generalize dropTrailingSlashes (besides ++ rest) = kept at hbase ⊢
  rcases kept with _ | ⟨a, _ | ⟨b, kept⟩⟩
  · -- a dot is no slash
    have hdot : '.' ∈ slashes := by
      rw [List.nil_append] at hbase
      rw [← hbase]
      exact List.mem_cons_self
    exact absurd (hslashes _ hdot) (by decide)
  · obtain ⟨hdot, -⟩ := List.cons.inj hbase
    rw [← hdot]
    exact ⟨name.toList, rfl⟩
  · obtain ⟨hdot, hbase⟩ := List.cons.inj hbase
    obtain ⟨hslash, -⟩ := List.cons.inj hbase
    rw [← hdot, ← hslash]
    exact ⟨kept ++ '/' :: name.toList, rfl⟩

/-- **A relative name behind a relative base is the address of something that is not from elsewhere.** -/
theorem isCrossOrigin_resolve {name base address : String} (page : Option Url)
    (hname : ¬ IsAddress name) (hbase : IsBeside base) (h : resolve name base = some address) :
    Url.isCrossOrigin page address = false := by
  rw [resolve_of_not_isAddress (ne_empty_of_resolve h) hname] at h
  cases h
  exact Url.isCrossOrigin_dotted page (besides_join hbase name)

end Address

open Address

/-- The name of the sound that an operation asks for. -/
def Operation.name? : Operation → Option String
  | .playEffect request => some request.name
  | .playMusic request => some request.name
  | _ => none

theorem Operation.resolve_of_wants? {op : Operation} {base address : String} {kind : BusKind}
    (h : op.wants? base = some (address, kind)) :
    ∃ name, op.name? = some name ∧ resolve name base = some address := by
  cases op with
  | playEffect request | playMusic request =>
    obtain ⟨a, ha, heq⟩ := Option.map_eq_some_iff.mp h
    cases heq
    exact ⟨request.name, rfl, ha⟩
  | _ => cases h

theorem isBeside_effectiveBase {settings : Settings} (h : IsBeside settings.base) :
    IsBeside settings.effectiveBase := .inr h.standard

/-- **Relative names under a relative base stay with the page.**

* For every page, known or unknown, every base that is empty or begins with a dot and a slash, and every
  name that is neither absolute nor rooted, whatever characters it has: the address is not known to be
  from elsewhere, and it is fetched with credentials.
* Over every host whose sources tell the addresses that they were built for, and through every run of an
  engine with such a base: an operation that asks for a sound by such a name builds no source that is
  fetched without credentials, and leaves none out of the graph as one from elsewhere. -/
theorem relative_names_stay :
    (∀ (page : Option Url) (name base : String), name ≠ "" → ¬ IsAddress name → IsBeside base →
      ∃ address, resolve name base = some address ∧ Url.isCrossOrigin page address = false ∧
        FetchMode.of page address = .standard) ∧
    ∀ (H : Host) (settings : Settings) (host : H.State) (steps : List (Step H)),
      IsBeside settings.base →
      TellsAddresses
        (exchangesOf ((Situation.opening settings host).after steps).session.chronicle) →
      ∀ p ∈ (Situation.opening settings host).history steps, ∀ op name,
        p.step = .perform op → op.name? = some name → ¬ IsAddress name →
        (∀ id address mode reply,
          (⟨.createSource id address mode, reply⟩ : Exchange) ∈ p.exchanges → mode = .standard) ∧
        ¬ p.Declines := by
  refine ⟨fun page name base hne hname hbase => ?_, ?_⟩
  · have hresolve := resolve_of_not_isAddress hne hname base
    have hsame := isCrossOrigin_resolve page hname hbase hresolve
    exact ⟨_, hresolve, hsame, fetchMode_standard_iff.mpr hsame⟩
  · intro H settings host steps hbase htells p hp op name hstep hop hname
    have hmodes : ∀ id address mode reply,
        (⟨.createSource id address mode, reply⟩ : Exchange) ∈ p.exchanges → mode = .standard := by
      intro id address mode reply hx
      rw [mem_fetching rfl] at hx
      rcases fetched_of_mem_history settings host steps htells hp with hnone |
        ⟨i, a, kind, ⟨op', hstep', hwants⟩, m, -, hfetched⟩
      · rw [hnone] at hx
        cases hx
      · obtain ⟨rfl, rfl, rfl⟩ := hfetched.created hx
        cases hstep.symm.trans hstep'
        obtain ⟨name', hname', hresolve⟩ := Operation.resolve_of_wants? hwants
        cases hop.symm.trans hname'
        exact fetchMode_standard_iff.mpr
          (isCrossOrigin_resolve _ hname (isBeside_effectiveBase hbase) hresolve)
    refine ⟨hmodes, fun hdeclines => ?_⟩
    -- what is left out was fetched without credentials
    obtain ⟨bus, told, hdeclined⟩ := Passage.declines_iff.mp hdeclines
    rcases fetched_of_mem_history settings host steps htells hp with hnone |
      ⟨id, address, kind, -, m, -, hfetched⟩
    · rw [hnone] at hdeclined
      cases hdeclined
    · have hmade := (attempts_fetching p.entries).symm.trans (hfetched.anonymous hdeclined)
      have hmem : (⟨.createSource id address .anonymous, .ok ()⟩ : Exchange) ∈ p.exchanges :=
        List.mem_of_mem_filter (hmade ▸ List.mem_singleton_self _)
      cases hmodes id address .anonymous (.ok ()) hmem

/-- On a stage with a page: a name that looks like an address on another server, with a scheme, a tab, two
backslashes and a mark, is asked for by an effect that is routed. -/
theorem relative_names_stay_stage :
    let name := "http:\t\\\\[::2]/a://x"
    let gong : Step Stage.host := .perform (.playEffect { name })
    let start : Situation Stage.host :=
      .opening .standard { script := { page := some "http://[::1]/" } }
    ¬ IsAddress name ∧ IsBeside Settings.standard.base ∧
      TellsAddresses (exchangesOf (start.after [gong]).session.chronicle) ∧
      (∃ address, resolve name Settings.standard.base = some address ∧
        Url.isCrossOrigin start.engine.page address = false) ∧
      (⟨.createSource ⟨1⟩ ("./sounds/" ++ name) .standard, .ok ()⟩ : Exchange) ∈
        Passage.exchanges ⟨start, gong⟩ ∧ ¬ Passage.Declines ⟨start, gong⟩ := by
  intro name gong start
  have hname : ¬ IsAddress name := by decide
  have hbase : IsBeside Settings.standard.base := by decide
  have htells : TellsAddresses (exchangesOf (start.after [gong]).session.chronicle) := by
    decide +kernel
  obtain ⟨mode, hgong⟩ : ∃ mode,
      (⟨.createSource ⟨1⟩ ("./sounds/" ++ name) mode, .ok ()⟩ : Exchange) ∈
        Passage.exchanges ⟨start, gong⟩ := mem_built (by decide +kernel)
  obtain ⟨haddress, hrun⟩ := relative_names_stay
  obtain ⟨address, hresolve, hsame, -⟩ :=
    haddress start.engine.page name Settings.standard.base (by decide) hname hbase
  obtain ⟨hmodes, hroutes⟩ := hrun Stage.host .standard _ [gong] hbase htells ⟨start, gong⟩
    List.mem_cons_self _ name rfl rfl hname
  obtain rfl := hmodes _ _ _ _ hgong
  exact ⟨hname, hbase, htells, ⟨address, hresolve, hsame⟩, hgong, hroutes⟩

end SoundEngine
