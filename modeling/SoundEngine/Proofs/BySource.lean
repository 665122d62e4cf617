import Mathlib.Logic.Equiv.Basic
import SoundEngine.Proofs.Lookalikes

/-!
# Hosts that answer by source

Over some hosts it does not matter what happens to other sources, nor which number a source has: how
it is answered for depends on its address and on what it was told before, and on nothing else.

* §1 sorts calls and exchanges by source, as `Proofs.Dossier` does, but leaves nothing out.
* §2 says what such a host is.
* §3 compares two states of one host in which sources that stand for each other have been told the
  same (`Host.Told`).  The host follows the likeness in which one source stands for another.
* §4 shows that a stage is such a host, unless its script lets the pauses or seeks of some numbers
  fail.
-/

namespace SoundEngine

open Conduct Likeness

variable {H : Host} {α β : Type}

/-! ## 1. What is about a source -/

/-- Whom the last of some calls, or exchanges, was about, when `last` is whom the call before them was
about. -/
def ownerAfter (call : α → Call) (last : Option SourceId) (xs : List α) : Option SourceId :=
  xs.foldl (fun last x => (call x).owner last) last

/-- What of some calls, or exchanges, is about a source, when `last` is whom the call before them was
about.  The calls that name a source are about it, and the steps in the graph that follow go with it,
though they do not name it. -/
def about (call : α → Call) (id : SourceId) : Option SourceId → List α → List α
  | _, [] => []
  | last, x :: xs =>
    if (call x).owner last = some id then x :: about call id ((call x).owner last) xs
    else about call id ((call x).owner last) xs

/-- All that a source has been told. -/
def callsAbout (id : SourceId) (calls : List Call) : List Call := about (fun c => c) id none calls

/-- Whom the last call was about. -/
def lastAbout (calls : List Call) : Option SourceId := ownerAfter (fun c => c) none calls

/-- The calls do not begin with a step in the graph, which would go with a source before them. -/
def Anchored (calls : List Call) : Prop := ∀ c ∈ calls.head?, c.isWiring = false

/-- All calls on a source, and on the nodes that were made for it, with their answers. -/
def historyOf (id : SourceId) (X : List Exchange) : List Exchange := about Exchange.call id none X

section About

variable {call : α → Call} {id : SourceId} {last : Option SourceId}

theorem about_cons (x : α) (xs : List α) :
    about call id last (x :: xs) =
      if (call x).owner last = some id then x :: about call id ((call x).owner last) xs
      else about call id ((call x).owner last) xs := rfl

theorem about_append (xs ys : List α) :
    about call id last (xs ++ ys) =
      about call id last xs ++ about call id (ownerAfter call last xs) ys := by
  induction xs generalizing last with
  | nil => rfl
  | cons x xs ih =>
    rw [List.cons_append, about_cons, about_cons, ih]
    split <;> rfl

theorem about_map (f : β → α) (xs : List β) :
    about call id last (xs.map f) = (about (call ∘ f) id last xs).map f := by
  induction xs generalizing last with
  | nil => rfl
  | cons x xs ih =>
    rw [List.map_cons, about_cons, about_cons, ih]
    simp only [Function.comp_apply]
    split <;> rfl

/-- A row that begins with a call that is no step in the graph does not depend on what came before. -/
theorem about_of_head {xs : List α} (h : ∀ x ∈ xs.head?, (call x).isWiring = false) :
    about call id last xs = about call id none xs := by
  cases xs with
  | nil => rfl
  | cons x xs =>
    have howner : (call x).owner last = (call x).owner none := by
      unfold Call.owner
      rw [if_neg (Bool.eq_false_iff.mp (h x rfl)), if_neg (Bool.eq_false_iff.mp (h x rfl))]
    rw [about_cons, about_cons, howner]

/-- Nothing is about a source that is not named. -/
theorem about_eq_nil {xs : List α} (h : ∀ x ∈ xs, (call x).source? ≠ some id)
    (hlast : last ≠ some id) : about call id last xs = [] := by
  induction xs generalizing last with
  | nil => rfl
  | cons x xs ih =>
    obtain ⟨hx, hxs⟩ := List.forall_mem_cons.mp h
    have howner : (call x).owner last ≠ some id := by
      unfold Call.owner
      split
      · exact hlast
      · exact hx
    rw [about_cons, if_neg howner, ih hxs howner]

end About

theorem callsAbout_calls (id : SourceId) (X : List Exchange) :
    callsAbout id (X.map Exchange.call) = (historyOf id X).map Exchange.call :=
  about_map Exchange.call X

theorem historyOf_eq_nil {id : SourceId} {X : List Exchange} (h : ∀ x ∈ X, x.call.source? ≠ some id) :
    historyOf id X = [] :=
  about_eq_nil h (Option.some_ne_none id).symm

theorem callsAbout_eq_nil {id : SourceId} {X : List Exchange} (h : ∀ x ∈ X, x.call.source? ≠ some id) :
    callsAbout id (X.map Exchange.call) = [] := by
  rw [callsAbout_calls, historyOf_eq_nil h]
  rfl

theorem anchored_nil : Anchored [] := fun _ h => absurd h (by simp)

theorem anchored_calls {X : List Exchange} (h : ∀ x ∈ X.head?, x.call.isWiring = false) :
    Anchored (X.map Exchange.call) := by
  cases X with
  | nil => exact anchored_nil
  | cons x X =>
    rintro _ ⟨⟩
    exact h x rfl

theorem historyOf_append (id : SourceId) (X : List Exchange) {Y : List Exchange}
    (h : ∀ x ∈ Y.head?, x.call.isWiring = false) :
    historyOf id (X ++ Y) = historyOf id X ++ historyOf id Y := by
  unfold historyOf
  rw [about_append, about_of_head h]

section Corresponding

variable {K : Likeness}

theorem Likeness.Calls.isWiring {c c' : Call} (h : K.Calls c c') : c'.isWiring = c.isWiring := by
  obtain ⟨_, _, h⟩ := h
  cases h <;> rfl

theorem Likeness.Calls.owner {c c' : Call} (h : K.Calls c c') {last last' : Option SourceId}
    (hlast : Option.Rel K.source last last') : Option.Rel K.source (c.owner last) (c'.owner last') := by
  unfold Call.owner
  rw [h.isWiring]
  split
  · exact hlast
  · exact h.source?

theorem option_rel_some_iff (hK : Relator.BiUnique K.source) {a a' : Option SourceId} {id id' : SourceId}
    (h : Option.Rel K.source a a') (hid : K.source id id') : a = some id ↔ a' = some id' := by
  cases h with
  | none => simp
  | @some b b' hb =>
    rw [Option.some.injEq, Option.some.injEq]
    constructor
    · rintro rfl
      exact hK.2 hb hid
    · rintro rfl
      exact hK.1 hb hid

/-- **Corresponding rows of exchanges** have corresponding things about corresponding sources. -/
theorem about_mates (hK : Relator.BiUnique K.source) {id id' : SourceId} (hid : K.source id id')
    {X X' : List Exchange} (h : List.Forall₂ K.Exchanges X X') {last last' : Option SourceId}
    (hlast : Option.Rel K.source last last') :
    List.Forall₂ K.Exchanges (about Exchange.call id last X) (about Exchange.call id' last' X') := by
  induction h generalizing last last' with
  | nil => exact .nil
  | @cons x x' X X' hx _ ih =>
    have hcalls : K.Calls x.call x'.call := ⟨x.reply, x'.reply, hx⟩
    have howner := hcalls.owner hlast
    rw [about_cons, about_cons]
    by_cases hself : x.call.owner last = some id
    · rw [if_pos hself, if_pos ((option_rel_some_iff hK howner hid).mp hself)]
      exact .cons hx (ih howner)
    · rw [if_neg hself, if_neg (hself ∘ (option_rel_some_iff hK howner hid).mpr)]
      exact ih howner

end Corresponding

/-! ## 2. Hosts that answer by source -/

/-- One source stands for another, and so do the nodes that were made for them. -/
def Likeness.pair (nodes : SourceId → SourceId → Node → Node → Prop) (i j : SourceId) : Likeness :=
  ⟨fun id id' => id = i ∧ id' = j, nodes i j, True⟩

/-- **From this state on, the host answers by source**: its answer to a call on a source, or on the nodes
made for it, and the events that it reports then, depend only on the source's address and on the earlier
calls on that source.  So if the earlier calls on two sources correspond, then so do the answers to
corresponding calls.  The address is among these calls if the source is built after this state, as are
those numbered from `fresh` on; another source has only itself to be compared with.  `nodes` tells which
nodes correspond, for the host may name them as it likes.  Rows of calls that begin in the graph are left
out: such a call would belong to a source that was named before. -/
def Host.AnswersBySource (H : Host) (nodes : SourceId → SourceId → Node → Node → Prop) (st : H.State)
    (fresh : Nat) : Prop :=
  ∀ i j, (i = j ∨ fresh ≤ i.number ∧ fresh ≤ j.number) →
    ∀ A B, Anchored A → Anchored B →
      List.Forall₂ (pair nodes i j).Calls (callsAbout i A) (callsAbout j B) →
      ∀ c c', (pair nodes i j).Calls c c' → c.owner (lastAbout A) = some i →
        c'.owner (lastAbout B) = some j →
        (pair nodes i j).Exchanges ⟨c, (H.answer c (H.after st A)).1⟩
            ⟨c', (H.answer c' (H.after st B)).1⟩ ∧
          List.Forall₂ (pair nodes i j).Notices (H.answer c (H.after st A)).2.1
            (H.answer c' (H.after st B)).2.1

/-! ## 3. Sources that have been told the same -/

section Told

variable {nodes : SourceId → SourceId → Node → Node → Prop} {σ : Equiv.Perm SourceId}
  {D : SourceId → Prop} {st : H.State} {fresh : Nat}

/-- The sources of some kind stand for those that they are exchanged with. -/
def Likeness.exchanging (nodes : SourceId → SourceId → Node → Node → Prop) (σ : Equiv.Perm SourceId)
    (D : SourceId → Prop) : Likeness :=
  ⟨fun id id' => D id ∧ id' = σ id, fun node node' => node' = node ∨ ∃ id, nodes id (σ id) node node',
    True⟩

theorem biUnique_exchanging : Relator.BiUnique (exchanging nodes σ D).source :=
  ⟨fun _ _ _ h h' => σ.injective (h.2.symm.trans h'.2), fun _ _ _ h h' => h.2.trans h'.2.symm⟩

theorem exchanging_node (node : Node) : (exchanging nodes σ D).node node node := .inl rfl

theorem pair_within {id : SourceId} (hid : D id) :
    (pair nodes id (σ id)).Within (exchanging nodes σ D) where
  source := by
    rintro _ _ ⟨rfl, rfl⟩
    exact ⟨hid, rfl⟩
  node h := .inr ⟨id, h⟩
  exact h := h

theorem exchanging_within {D' : SourceId → Prop} (h : ∀ id, D id → D' id) :
    (exchanging nodes σ D).Within (exchanging nodes σ D') where
  source := fun ⟨hid, hsame⟩ => ⟨h _ hid, hsame⟩
  node h := h
  exact h := h

/-- Each source of some kind has been told in the one row of calls what the source that it is exchanged
with has been told in the other. -/
structure Retold (nodes : SourceId → SourceId → Node → Node → Prop) (σ : Equiv.Perm SourceId)
    (D : SourceId → Prop) (A B : List Call) : Prop where
  left : Anchored A
  right : Anchored B
  same : ∀ id, D id → List.Forall₂ (pair nodes id (σ id)).Calls (callsAbout id A) (callsAbout (σ id) B)

/-- The host went from one state to these two by telling sources of some kind the same. -/
def Host.Told (H : Host) (nodes : SourceId → SourceId → Node → Node → Prop) (σ : Equiv.Perm SourceId)
    (D : SourceId → Prop) (st st₁ st₂ : H.State) : Prop :=
  ∃ A B, st₁ = H.after st A ∧ st₂ = H.after st B ∧ Retold nodes σ D A B

/-- Besides, this source was the last to be told something. -/
def Host.ToldLast (H : Host) (nodes : SourceId → SourceId → Node → Node → Prop)
    (σ : Equiv.Perm SourceId) (D : SourceId → Prop) (st : H.State) (last : SourceId)
    (st₁ st₂ : H.State) : Prop :=
  ∃ A B, st₁ = H.after st A ∧ st₂ = H.after st B ∧ Retold nodes σ D A B ∧
    lastAbout A = some last ∧ lastAbout B = some (σ last)

theorem callsAbout_snoc (id : SourceId) (A : List Call) (c : Call) :
    callsAbout id (A ++ [c]) =
      callsAbout id A ++ if c.owner (lastAbout A) = some id then [c] else [] := by
  unfold callsAbout
  rw [about_append]
  rfl

theorem lastAbout_snoc (A : List Call) (c : Call) :
    lastAbout (A ++ [c]) = c.owner (lastAbout A) := by
  unfold lastAbout ownerAfter
  rw [List.foldl_append]
  rfl

/-- A call on a source can come first; a step in the graph comes after one. -/
theorem anchored_snoc {A : List Call} (hA : Anchored A) {c : Call} {id : SourceId}
    (hc : c.owner (lastAbout A) = some id) : Anchored (A ++ [c]) := by
  cases A with
  | cons a A => exact hA
  | nil =>
    rintro _ ⟨⟩
    refine Bool.eq_false_iff.mpr fun hwiring => ?_
    unfold Call.owner at hc
    rw [if_pos hwiring] at hc
    exact absurd hc (by simp [lastAbout, ownerAfter])

/-- One more call on each side. -/
theorem Retold.snoc {A B : List Call} (h : Retold nodes σ D A B) {id : SourceId} {c c' : Call}
    (hc : (pair nodes id (σ id)).Calls c c') (howner : c.owner (lastAbout A) = some id)
    (howner' : c'.owner (lastAbout B) = some (σ id)) : Retold nodes σ D (A ++ [c]) (B ++ [c']) where
  left := anchored_snoc h.left howner
  right := anchored_snoc h.right howner'
  same other hother := by
    rw [callsAbout_snoc, callsAbout_snoc, howner, howner']
    by_cases hsame : id = other
    · subst hsame
      rw [if_pos rfl, if_pos rfl]
      exact List.rel_append (h.same id hother) (.cons hc .nil)
    · have hne : some id ≠ some other := fun he => hsame (Option.some.inj he)
      have hne' : some (σ id) ≠ some (σ other) := fun he => hsame (σ.injective (Option.some.inj he))
      rw [if_neg hne, if_neg hne', List.append_nil, List.append_nil]
      exact h.same other hother

variable (hH : H.AnswersBySource nodes st fresh)
  (hσ : ∀ id, id = σ id ∨ fresh ≤ id.number ∧ fresh ≤ (σ id).number)

include hH hσ

/-- The host answers the two calls correspondingly. -/
theorem told_answer {id : SourceId} {A B : List Call} (htold : Retold nodes σ D A B) (hid : D id)
    {c c' : Call} (hc : (pair nodes id (σ id)).Calls c c')
    (howner : c.owner (lastAbout A) = some id) (howner' : c'.owner (lastAbout B) = some (σ id)) :
    (pair nodes id (σ id)).Exchanges ⟨c, (H.answer c (H.after st A)).1⟩
        ⟨c', (H.answer c' (H.after st B)).1⟩ ∧
      List.Forall₂ (pair nodes id (σ id)).Notices (H.answer c (H.after st A)).2.1
        (H.answer c' (H.after st B)).2.1 ∧
      H.ToldLast nodes σ D st id (H.answer c (H.after st A)).2.2 (H.answer c' (H.after st B)).2.2 := by
  obtain ⟨hexchange, hnotices⟩ :=
    hH id (σ id) (hσ id) A B htold.left htold.right (htold.same id hid) c c' hc howner howner'
  refine ⟨hexchange, hnotices, A ++ [c], B ++ [c'], ?_, ?_, htold.snoc hc howner howner', ?_, ?_⟩
  · rw [after_append_calls]
    rfl
  · rw [after_append_calls]
    rfl
  · rw [lastAbout_snoc, howner]
  · rw [lastAbout_snoc, howner']

/-- **The host follows the exchange of numbers.** -/
theorem told_follows {id : SourceId} (hid : D id) :
    H.Follows (pair nodes id (σ id)) (H.Told nodes σ D st) (H.ToldLast nodes σ D st id) where
  named := by
    rintro c c' hc hnamed _ _ ⟨A, B, rfl, rfl, htold⟩
    have hsource := hc.source?
    have howner : c.owner (lastAbout A) = some id ∧ c'.owner (lastAbout B) = some (σ id) := by
      unfold Call.owner
      rw [hc.isWiring]
      generalize hs : c.source? = source, hs' : c'.source? = source' at hsource hnamed ⊢
      cases hsource with
      | none => exact absurd hnamed Bool.false_ne_true
      | some h =>
        obtain ⟨rfl, rfl⟩ := h
        rw [if_neg (Bool.eq_false_iff.mp (Call.isWiring_of_source? hs)),
          if_neg (Bool.eq_false_iff.mp (Call.isWiring_of_source? hs))]
        exact ⟨rfl, rfl⟩
    exact told_answer hH hσ htold hid hc howner.1 howner.2
  wired := by
    rintro c c' hc hwiring _ _ ⟨A, B, rfl, rfl, htold, hlast, hlast'⟩
    refine told_answer hH hσ htold hid hc ?_ ?_
    · unfold Call.owner
      rw [if_pos hwiring, hlast]
    · unfold Call.owner
      rw [hc.isWiring, if_pos hwiring, hlast']
  weaken := fun ⟨A, B, hA, hB, htold, _, _⟩ => ⟨A, B, hA, hB, htold⟩

end Told

/-! ## 4. A stage -/

namespace Stage

variable {i j id : SourceId} {s s' : State}

/-- Nodes have the same name, except that the node of a source is named after it. -/
def Renamed (i j : SourceId) (node node' : Node) : Prop :=
  node' = node ∨ node = mediaNode i ∧ node' = mediaNode j

/-- The script stays. -/
theorem script_answer (c : Call) (s : State) : State.script (host.answer c s).2.2 = s.script := by
  have hother : ∃ other : SourceId, c.source? ≠ some other := by
    cases c.source? with
    | none => exact ⟨⟨0⟩, by simp⟩
    | some id => exact ⟨⟨id.number + 1⟩, fun he =>
        Nat.succ_ne_self _ (congrArg SourceId.number (Option.some.inj he)).symm⟩
  obtain ⟨other, hc⟩ := hother
  exact (sameSource_answer hc s).1

theorem script_after (s : State) (A : List Call) : State.script (host.after s A) = s.script := by
  induction A generalizing s with
  | nil => rfl
  | cons c A ih => exact (ih _).trans (script_answer c s)

/-- For a source nothing counts but what is about it. -/
theorem sameSource_about (h : SameSource id s s') (last : Option SourceId) (A : List Call) :
    SameSource id (host.after s (about (fun c => c) id last A)) (host.after s' A) := by
  induction A generalizing s s' last with
  | nil => exact h
  | cons c A ih =>
    rw [about_cons]
    by_cases hc : c.source? = some id
    · have howner : c.owner last = some id := by
        unfold Call.owner
        rw [if_neg (Bool.eq_false_iff.mp (Call.isWiring_of_source? hc)), hc]
      rw [if_pos howner]
      exact ih (h.answer hc).2.2 _
    · have hkept := h.trans (sameSource_answer hc s')
      split
      · -- A step in the graph goes with the source, and leaves it alone.
        obtain ⟨hscript, hfound⟩ := sameSource_answer hc s
        exact ih ⟨hkept.1.trans hscript.symm, hkept.2.trans hfound.symm⟩ _
      · exact ih hkept _

section Corresponding

variable {c c' : Call} (hc : (pair Renamed i j).Calls c c')

include hc

/-- Lookalikes are told corresponding things. -/
theorem Lookalike.told (h : Lookalike (pair Renamed i j) i j s s') (hscript : Evenhanded s.script i j) :
    Lookalike (pair Renamed i j) i j (host.answer c s).2.2 (host.answer c' s').2.2 := by
  have hsource := hc.source?
  cases hi : c.source? with
  | some a =>
    rw [hi] at hsource
    generalize hj : c'.source? = source at hsource
    cases hsource with
    | some hpair =>
      obtain ⟨rfl, rfl⟩ := hpair
      exact (h.answer hscript (.inr ⟨rfl, rfl⟩) hc hi hj).media
  | none =>
    rw [hi] at hsource
    generalize hj : c'.source? = source at hsource
    cases hsource
    obtain ⟨hkept, hfound⟩ : SameSource i s (host.answer c s).2.2 :=
      sameSource_answer (by simp [hi]) s
    obtain ⟨hkept', hfound'⟩ : SameSource j s' (host.answer c' s').2.2 :=
      sameSource_answer (by simp [hj]) s'
    refine ⟨(hkept'.trans h.script).trans hkept.symm, ?_⟩
    rw [hfound, hfound']
    exact h.media

/-- A step in the graph is answered by the script. -/
theorem wiring_answer (hscript : s'.script = s.script) (hwiring : c.isWiring = true) :
    (pair Renamed i j).Exchanges ⟨c, (host.answer c s).1⟩ ⟨c', (host.answer c' s').1⟩ ∧
      List.Forall₂ (pair Renamed i j).Notices (host.answer c s).2.1 (host.answer c' s').2.1 := by
  obtain ⟨_, _, hc⟩ := hc
  cases hc with
  | supportsStereoPan =>
    simp only [host]
    rw [hscript]
    exact ⟨.supportsStereoPan _, .nil⟩
  | createPanner hpan =>
    obtain rfl := hpan trivial
    simp only [host]
    rw [hscript]
    cases s.script.pannerFailure with
    | some failure => exact ⟨.createPanner hpan (.error _), .nil⟩
    | none => exact ⟨.createPanner hpan (.ok (.inl rfl)), .nil⟩
  | connect hstart hfinish =>
    simp only [host]
    rw [hscript]
    exact ⟨.connect hstart hfinish _, .nil⟩
  | connectBus hstart bus =>
    simp only [host]
    rw [hscript]
    exact ⟨.connectBus hstart bus _, .nil⟩
  | _ => exact absurd hwiring Bool.false_ne_true

end Corresponding

theorem Lookalike.row {L L' : List Call} (hL : List.Forall₂ (pair Renamed i j).Calls L L')
    (h : Lookalike (pair Renamed i j) i j s s') (hscript : Evenhanded s.script i j) :
    Lookalike (pair Renamed i j) i j (host.after s L) (host.after s' L') := by
  induction hL generalizing s s' with
  | nil => exact h
  | @cons c c' _ _ hc _ ih =>
    refine ih (h.told hc hscript) ?_
    rw [script_answer]
    exact hscript

/-- **A stage answers by source**, if it can pause and rewind every source. -/
theorem answersBySource (s : State) (hpauses : s.script.pauseFails = [])
    (hseeks : s.script.seekFails = []) {fresh : Nat} (hfresh : ∀ m ∈ s.media, m.source.number < fresh) :
    host.AnswersBySource Renamed s fresh := by
  intro i j hij A B _ _ hAB c c' hc howner howner'
  have heven : Evenhanded s.script i j := .inr ⟨hpauses, hseeks⟩
  have hnew (id : SourceId) (hid : fresh ≤ id.number) : s.find? id = none := by
    refine List.find?_eq_none.mpr fun m hm he => ?_
    rw [← beq_iff_eq.mp he] at hid
    exact Nat.not_lt_of_le hid (hfresh m hm)
  have hstart : Lookalike (pair Renamed i j) i j s s := by
    refine ⟨rfl, ?_⟩
    rcases hij with rfl | ⟨hi, hj⟩
    · cases s.find? i with
      | none => exact .none
      | some m => exact .some ⟨rfl, .refl _, rfl, rfl, rfl⟩
    · rw [hnew i hi, hnew j hj]
      exact .none
  -- the calls about other sources change neither the script nor the element
  have halike : Lookalike (pair Renamed i j) i j (host.after s A) (host.after s B) := by
    obtain ⟨hscript, hmedia⟩ := hstart.row hAB heven
    obtain ⟨hscriptA, hfoundA⟩ : SameSource i (host.after s (callsAbout i A)) (host.after s A) :=
      sameSource_about ⟨rfl, rfl⟩ none A
    obtain ⟨hscriptB, hfoundB⟩ : SameSource j (host.after s (callsAbout j B)) (host.after s B) :=
      sameSource_about ⟨rfl, rfl⟩ none B
    refine ⟨(hscriptB.trans hscript).trans hscriptA.symm, ?_⟩
    rw [hfoundA, hfoundB]
    exact hmedia
  unfold Call.owner at howner howner'
  rw [hc.isWiring] at howner'
  cases hwiring : c.isWiring with
  | true => exact wiring_answer hc halike.script hwiring
  | false =>
    rw [hwiring] at howner howner'
    have heven' : Evenhanded (State.script (host.after s A)) i j := by
      rw [script_after]
      exact heven
    have hanswer := halike.answer heven' (.inr ⟨rfl, rfl⟩) hc howner howner'
    exact ⟨hanswer.exchange, hanswer.notices⟩

end Stage

end SoundEngine
