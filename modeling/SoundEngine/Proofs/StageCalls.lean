import SoundEngine.Simulation.Stage

/-!
# What a call on a source does to a stage

A stage keeps its sources side by side.  A call on one of them is answered by the script and by that
source, and whatever it does, it does to that source: this is proved once here, call by call, and is all
that is used of these calls wherever a stage serves as an example of a host.

* §1 is about changing one source: what is found of it afterwards, and that nothing else is touched.
  Two stages on which a source looks the same (`SameSource`) are what an answer cannot tell apart.
* §2 goes through the calls.  A call on a source that has been built is answered alike on all stages that
  agree on it, and makes the same change to it on all of them (`Local`): one lemma for each kind of call,
  the questions and the levels first, then playing and halting, and the graph last.
* §3 adds the call that builds a source, and states what all calls on a source have in common
  (`answer_local`, `Deed`).
-/

namespace SoundEngine.Stage

variable {id id' : SourceId} {s s' : State}

/-! ## 1. One source among others -/

/-- A change that leaves each source under its own name, so that it can be found again and no other is
found in its place. -/
def Keeps (f : Media → Media) : Prop := ∀ m, (f m).source = m.source

theorem find?_change {f : Media → Media} (hf : Keeps f) (hne : id ≠ id') (s : State) :
    (s.change id f).find? id' = s.find? id' := by
  unfold State.find? State.change
  dsimp only
  induction s.media with
  | nil => rfl
  | cons m ms ih =>
    rw [List.map_cons, List.find?_cons, List.find?_cons]
    by_cases hm : m.source = id
    · have hother : (m.source == id') = false := beq_false_of_ne fun he => hne (hm.symm.trans he)
      rw [if_pos hm, hf m, hother]
      exact ih
    · rw [if_neg hm, ih]

theorem find?_change_self {f : Media → Media} (hf : Keeps f) (s : State) :
    (s.change id f).find? id = (s.find? id).map f := by
  unfold State.find? State.change
  dsimp only
  induction s.media with
  | nil => rfl
  | cons m ms ih =>
    rw [List.map_cons, List.find?_cons, List.find?_cons]
    by_cases hm : m.source = id
    · have hself : (m.source == id) = true := beq_iff_eq.mpr hm
      rw [if_pos hm, hf m, hself]
      rfl
    · have hother : (m.source == id) = false := beq_false_of_ne hm
      rw [if_neg hm, hother]
      exact ih

theorem change_comm {f g : Media → Media} (hf : Keeps f) (hg : Keeps g) (hne : id ≠ id')
    (s : State) : (s.change id f).change id' g = (s.change id' g).change id f := by
  unfold State.change
  dsimp only
  congr 1
  rw [List.map_map, List.map_map]
  refine List.map_congr_left fun m _ => ?_
  dsimp only [Function.comp_apply]
  by_cases hm : m.source = id
  · have hother : m.source ≠ id' := fun he => hne (hm.symm.trans he)
    rw [if_pos hm, hf m, if_neg hother, if_neg hother, if_pos hm]
  · rw [if_neg hm]
    by_cases hm' : m.source = id'
    · rw [if_pos hm', hg m, if_neg hm]
    · rw [if_neg hm', if_neg hm]

@[simp] theorem change_script (s : State) (id : SourceId) (f : Media → Media) :
    (s.change id f).script = s.script := rfl

/-- Two changes of one source are one change. -/
theorem change_change {f : Media → Media} (hf : Keeps f) (g : Media → Media) (id : SourceId) (s : State) :
    (s.change id f).change id g = s.change id fun m => g (f m) := by
  unfold State.change
  dsimp only
  congr 1
  rw [List.map_map]
  refine List.map_congr_left fun m _ => ?_
  dsimp only [Function.comp_apply]
  by_cases hm : m.source = id
  · rw [if_pos hm, hf m, if_pos hm, if_pos hm]
  · rw [if_neg hm, if_neg hm, if_neg hm]

theorem change_id (s : State) (id : SourceId) : s.change id (fun m => m) = s := by
  unfold State.change
  simp

/-- One source looks the same on both stages, and so does the script; or the source is on neither of them.
Everything else may differ. -/
def SameSource (id : SourceId) (s s' : State) : Prop :=
  s'.script = s.script ∧ s'.find? id = s.find? id

theorem SameSource.refl (id : SourceId) (s : State) : SameSource id s s := ⟨rfl, rfl⟩

theorem SameSource.trans {s'' : State} (h : SameSource id s s') (h' : SameSource id s' s'') :
    SameSource id s s'' :=
  ⟨h'.1.trans h.1, h'.2.trans h.2⟩

/-! ## 2. Calls on a source that is there -/

/-- The way of answering looks at nothing but the script and the source `id`, and touches nothing but this
source.  So on all stages that agree on the two, it makes the same reply and tells of the same events, and
the source is changed in the same way; everything else may differ between these stages, and stays as it
is on each. -/
def Local {α : Type} (id : SourceId) (answer : State → α × List Notice × State) : Prop :=
  ∀ s, ∃ f, Keeps f ∧ ∀ s', SameSource id s s' →
    answer s' = ((answer s).1, (answer s).2.1, s'.change id f)

/-- To look at the source without a change to it is local. -/
theorem local_asks {α : Type} (look : Option Media → α) :
    Local id fun s => (look (s.find? id), [], s) := by
  refine fun s => ⟨fun m => m, fun _ => rfl, fun s' h => ?_⟩
  dsimp only
  rw [h.2, change_id]

/-- To change the source without a look at it is local. -/
theorem local_sets {f : Media → Media} (hf : Keeps f) :
    Local id fun s => ((), [], s.change id f) :=
  fun _ => ⟨f, hf, fun _ _ => rfl⟩

section Play

variable (hplays : s.script.playFailure = none)

include hplays

theorem play_ends (hend : s.script.endOnPlay = true) : play s id =
    (.ok (), [⟨id, .ended⟩], s.change id fun m => { m with plays := m.plays + 1, playing := false }) := by
  unfold play
  simp only [change_script, hplays, hend, if_true]
  rw [change_change]
  exact fun _ => rfl

theorem play_goes_on (hend : s.script.endOnPlay = false) : play s id =
    (.ok (), [], s.change id fun m => { m with plays := m.plays + 1, playing := true }) := by
  unfold play
  simp only [change_script, hplays, hend, Bool.false_eq_true, if_false]
  rw [change_change]
  exact fun _ => rfl

end Play

/-- The script alone decides what comes of playing: the source is refused, ends at once, or plays on. -/
theorem local_play : Local id fun s => play s id := by
  intro s
  cases hfailure : s.script.playFailure with
  | some failure =>
    refine ⟨fun m => { m with plays := m.plays + 1 }, fun _ => rfl, fun s' h => ?_⟩
    simp only [play, change_script, h.1, hfailure]
  | none =>
    have hplays (s' : State) (h : SameSource id s s') : s'.script.playFailure = none := by
      rw [h.1, hfailure]
    cases hend : s.script.endOnPlay with
    | true =>
      refine ⟨fun m => { m with plays := m.plays + 1, playing := false }, fun _ => rfl, fun s' h => ?_⟩
      dsimp only
      rw [play_ends hfailure hend, play_ends (hplays s' h) (by rw [h.1, hend])]
    | false =>
      refine ⟨fun m => { m with plays := m.plays + 1, playing := true }, fun _ => rfl, fun s' h => ?_⟩
      dsimp only
      rw [play_goes_on hfailure hend, play_goes_on (hplays s' h) (by rw [h.1, hend])]

/-- A pause that does not fail stops a source that plays, and there is nothing to stop otherwise. -/
theorem local_pause : Local id fun s => pause s id := by
  intro s
  have hidle : Keeps fun m => m := fun _ => rfl
  dsimp only
  unfold pause
  by_cases hfails : s.script.pauseFails.contains id.number = true
  · refine ⟨_, hidle, fun s' h => ?_⟩
    rw [h.1, if_pos hfails, if_pos hfails, change_id]
  · cases hfound : s.find? id with
    | none =>
      refine ⟨_, hidle, fun s' h => ?_⟩
      rw [h.1, h.2, hfound, if_neg hfails, if_neg hfails, change_id]
    | some m =>
      by_cases hplaying : m.playing = true
      · refine ⟨fun m => { m with playing := false }, fun _ => rfl, fun s' h => ?_⟩
        rw [h.1, h.2, hfound, if_neg hfails, if_neg hfails]
        dsimp only
        rw [if_pos hplaying, if_pos hplaying]
      · refine ⟨_, hidle, fun s' h => ?_⟩
        rw [h.1, h.2, hfound, if_neg hfails, if_neg hfails]
        dsimp only
        rw [if_neg hplaying, if_neg hplaying, change_id]

theorem local_seek (position : Double) : Local id fun s => seek s id position := by
  intro s
  dsimp only
  unfold seek
  by_cases hfails : s.script.seekFails.contains id.number = true
  · refine ⟨fun m => m, fun _ => rfl, fun s' h => ?_⟩
    rw [h.1, if_pos hfails, if_pos hfails, change_id]
  · refine ⟨fun m => { m with position }, fun _ => rfl, fun s' h => ?_⟩
    rw [h.1, if_neg hfails, if_neg hfails]

/-- A source that is attached to the graph is not attached again. -/
theorem local_wrap : Local id fun s => ((wrap s id).1, [], (wrap s id).2) := by
  intro s
  dsimp only
  unfold wrap
  cases hfailure : s.script.wrapFailure with
  | some failure =>
    refine ⟨fun m => m, fun _ => rfl, fun s' h => ?_⟩
    rw [h.1, hfailure, change_id]
  | none =>
    by_cases hattached : (s.find? id).any Media.attached = true
    · refine ⟨fun m => m, fun _ => rfl, fun s' h => ?_⟩
      simp only [h.1, h.2, hfailure, hattached, if_true, change_id]
    · refine ⟨fun m => { m with attached := true }, fun _ => rfl, fun s' h => ?_⟩
      simp only [h.1, h.2, hfailure, hattached, Bool.false_eq_true, if_false]

/-! ## 3. All calls on a source -/

/-- What a call on a source may do to a stage: it changes this source, or adds it. -/
inductive Deed (id : SourceId) : (State → State) → Prop
  | changes {f : Media → Media} (hf : Keeps f) : Deed id fun s => s.change id f
  | adds {m : Media} (hm : m.source = id) : Deed id fun s => { s with media := s.media ++ [m] }

namespace Deed

variable {deed : State → State}

/-- A deed is seen in the same way wherever the source has looked the same before. -/
theorem alike (h : Deed id deed) (hs : SameSource id s s') : SameSource id (deed s) (deed s') := by
  obtain ⟨hscript, hfound⟩ := hs
  cases h with
  | changes hf =>
    refine ⟨hscript, ?_⟩
    rw [find?_change_self hf, find?_change_self hf, hfound]
  | adds hm =>
    refine ⟨hscript, ?_⟩
    unfold State.find? at hfound ⊢
    dsimp only
    rw [List.find?_append, List.find?_append, hfound]

/-- It is not seen on any other source. -/
theorem spares (h : Deed id deed) (hne : id ≠ id') (s : State) : SameSource id' s (deed s) := by
  cases h with
  | changes hf => exact ⟨rfl, find?_change hf hne s⟩
  | adds hm =>
    refine ⟨rfl, ?_⟩
    have hother : (_ == id') = false := beq_false_of_ne fun he => hne (hm.symm.trans he)
    unfold State.find?
    dsimp only
    rw [List.find?_append, List.find?_singleton, hother]
    exact Option.or_none

end Deed

/-- The call that builds a source is answered by the script alone, and adds the source if it succeeds. -/
theorem create_local (address : String) (mode : FetchMode) (s : State) :
    ∃ deed, Deed id deed ∧ ∀ s', SameSource id s s' →
      create s' id address mode = ((create s id address mode).1, deed s') := by
  unfold create
  cases hfailure : s.script.createFailure with
  | some failure =>
    refine ⟨_, .changes (f := fun m => m) fun _ => rfl, fun s' h => ?_⟩
    rw [h.1, hfailure, change_id]
  | none =>
    refine ⟨_, .adds (m := { source := id, address, mode }) rfl, fun s' h => ?_⟩
    rw [h.1, hfailure]

/-- **A call on a source** is answered by the script and by this source, and does nothing but a deed to
this source: all stages that agree on the source give the same answer, and the deed is the same on all. -/
theorem answer_local {c : Call} (hc : c.source? = some id) (s : State) :
    ∃ deed, Deed id deed ∧ ∀ s', SameSource id s s' →
      host.answer c s' = ((host.answer c s).1, (host.answer c s).2.1, deed s') := by
  have hchanges (hlocal : Local id (host.answer c)) : ∃ deed, Deed id deed ∧ ∀ s', SameSource id s s' →
      host.answer c s' = ((host.answer c s).1, (host.answer c s).2.1, deed s') := by
    obtain ⟨f, hf, h⟩ := hlocal s
    exact ⟨_, .changes hf, h⟩
  cases c with
  | pageAddress | supportsGraph | createContext | createBus | contextState | resume | awaitResume
  | supportsStereoPan | createPanner | connect | connectBus | setBusGain => cases hc
  | createSource i address mode =>
    cases hc
    obtain ⟨deed, hdeed, h⟩ := create_local address mode s
    exact ⟨deed, hdeed, fun s' hs => congrArg (fun r => (r.1, [], r.2)) (h s' hs)⟩
  | sourceAddress => cases hc; exact hchanges (local_asks fun m => (m.map Media.address).getD "")
  | sourceVolume => cases hc; exact hchanges (local_asks fun m => (m.map Media.volume).getD .zero)
  | isPaused => cases hc; exact hchanges (local_asks fun m => !m.any Media.playing)
  | setVolume | setRate | setLooping | setPreload => cases hc; exact hchanges (local_sets fun _ => rfl)
  | play => cases hc; exact hchanges local_play
  | pause => cases hc; exact hchanges local_pause
  | seek i position => cases hc; exact hchanges (local_seek position)
  | wrapSource => cases hc; exact hchanges local_wrap

/-- Stages that agree on a source agree on it after a call on it, and answer the call alike. -/
theorem SameSource.answer {c : Call} (hc : c.source? = some id) (h : SameSource id s s') :
    (host.answer c s').1 = (host.answer c s).1 ∧
      (host.answer c s').2.1 = (host.answer c s).2.1 ∧
      SameSource id (host.answer c s).2.2 (host.answer c s').2.2 := by
  obtain ⟨deed, hdeed, hlocal⟩ := answer_local hc s
  have hstate : (host.answer c s).2.2 = deed s := congrArg (fun r => r.2.2) (hlocal s (.refl id s))
  rw [hlocal s' h, hstate]
  exact ⟨rfl, rfl, hdeed.alike h⟩

/-- A call on no source leaves every source alone. -/
theorem sameSource_unnamed {c : Call} (hc : c.source? = none) (id : SourceId) (s : State) :
    SameSource id s (host.answer c s).2.2 := by
  cases c with
  | createSource | sourceAddress | sourceVolume | isPaused | setVolume | setRate | setLooping | setPreload
  | play | pause | seek | wrapSource => cases hc
  | pageAddress | supportsGraph | createContext | createBus | contextState | resume | supportsStereoPan
  | connect | connectBus | setBusGain => exact ⟨rfl, rfl⟩
  | awaitResume =>
    change SameSource id s (awaitResume s).2
    unfold awaitResume
    split
    · exact ⟨rfl, rfl⟩
    · split <;> exact ⟨rfl, rfl⟩
  | createPanner pan =>
    unfold host
    dsimp only
    split <;> exact ⟨rfl, rfl⟩

/-- **A call on nothing or on another source** leaves this source alone. -/
theorem sameSource_answer {c : Call} (hc : c.source? ≠ some id) (s : State) :
    SameSource id s (host.answer c s).2.2 := by
  cases hsource : c.source? with
  | none => exact sameSource_unnamed hsource id s
  | some other =>
    obtain ⟨deed, hdeed, hlocal⟩ := answer_local hsource s
    rw [hlocal s (.refl other s)]
    exact hdeed.spares (fun he => hc (hsource.trans (congrArg some he))) s

end SoundEngine.Stage
