import SoundEngine.Proofs.Likeness
import SoundEngine.Proofs.Standstill

/-!
# Sources that look alike

A stage answers a call on a source by its script and by that source alone (`Proofs.StageCalls`).  So if a
source on one stage looks like a source on another -- under another number perhaps, or at other levels --
then corresponding calls have corresponding answers, and the two go on looking alike.

Only a script that lets the pauses or seeks of some numbers fail treats sources by their numbers.
-/

namespace SoundEngine.Stage

open Likeness

variable {K : Likeness} {i j : SourceId} {s s' : State}

/-- Nothing that a stage looks at tells the two sources apart, except for their levels. -/
structure Media.Alike (K : Likeness) (m m' : Media) : Prop where
  address : m'.address = m.address
  volume : K.Level m.volume m'.volume
  playing : m'.playing = m.playing
  position : m'.position = m.position
  attached : m'.attached = m.attached

/-- The stages have one script, and a source on the one looks like a source on the other. -/
structure Lookalike (K : Likeness) (i j : SourceId) (s s' : State) : Prop where
  script : s'.script = s.script
  media : Option.Rel (Media.Alike K) (s.find? i) (s'.find? j)

/-- The script does not treat the two sources by their numbers. -/
def Evenhanded (script : Script) (i j : SourceId) : Prop :=
  i = j ∨ script.pauseFails = [] ∧ script.seekFails = []

/-- What is read off two lookalikes is related, if it is for elements that are alike. -/
theorem Lookalike.read (h : Lookalike K i j s s') {α : Type} {P : α → α → Prop}
    {f : Option Media → α} (hnone : P (f none) (f none))
    (hsome : ∀ m m', Media.Alike K m m' → P (f (some m)) (f (some m'))) :
    P (f (s.find? i)) (f (s'.find? j)) := by
  obtain ⟨-, h⟩ := h
  generalize s.find? i = m, s'.find? j = m' at h ⊢
  cases h with
  | none => exact hnone
  | some hm => exact hsome _ _ hm

/-- Lookalikes that are changed in the same way are lookalikes still. -/
theorem Lookalike.change (h : Lookalike K i j s s') (f f' : Media → Media)
    (hf : ∀ m m', Media.Alike K m m' → Media.Alike K (f m) (f' m')) (hkeeps : Keeps f)
    (hkeeps' : Keeps f') : Lookalike K i j (s.change i f) (s'.change j f') := by
  refine ⟨h.script, ?_⟩
  rw [find?_change_self hkeeps, find?_change_self hkeeps']
  obtain ⟨-, h⟩ := h
  generalize s.find? i = m, s'.find? j = m' at h ⊢
  cases h with
  | none => exact .none
  | some hm => exact .some (hf _ _ hm)

/-- A call and its answer correspond, and so do the events that come with it and the sources after it. -/
structure Corresponds (K : Likeness) (i j : SourceId) (c c' : Call)
    (r : c.Reply × List Notice × State) (r' : c'.Reply × List Notice × State) : Prop where
  exchange : K.Exchanges ⟨c, r.1⟩ ⟨c', r'.1⟩
  notices : List.Forall₂ K.Notices r.2.1 r'.2.1
  media : Lookalike K i j r.2.2 r'.2.2

section Answers

variable (h : Lookalike K i j s s') (hij : K.source i j)

include h hij

theorem Lookalike.create (address : String) (mode : FetchMode) :
    Corresponds K i j (.createSource i address mode) (.createSource j address mode)
      (host.answer (.createSource i address mode) s)
      (host.answer (.createSource j address mode) s') := by
  simp only [host, Stage.create]
  rw [h.script]
  cases s.script.createFailure with
  | some failure => exact ⟨.createSource hij address mode _, .nil, h⟩
  | none =>
    refine ⟨.createSource hij address mode _, .nil, rfl, ?_⟩
    obtain ⟨-, h⟩ := h
    unfold State.find? at h ⊢
    dsimp only
    rw [List.find?_append, List.find?_append]
    generalize s.media.find? _ = m, s'.media.find? _ = m' at h ⊢
    cases h with
    | some hm => exact .some hm
    | none =>
      have hnew : Media.Alike K { source := i, address, mode } { source := j, address, mode } :=
        ⟨rfl, .refl _, rfl, rfl, rfl⟩
      simpa using hnew

theorem Lookalike.tellsAddress :
    Corresponds K i j (.sourceAddress i) (.sourceAddress j) (host.answer (.sourceAddress i) s)
      (host.answer (.sourceAddress j) s') := by
  have hsame : ((s.find? i).map Media.address).getD "" = ((s'.find? j).map Media.address).getD "" :=
    h.read (f := fun m => (m.map Media.address).getD "") rfl fun _ _ hm => hm.address.symm
  simp only [host]
  rw [hsame]
  exact ⟨.sourceAddress hij _, .nil, h⟩

theorem Lookalike.tellsVolume :
    Corresponds K i j (.sourceVolume i) (.sourceVolume j) (host.answer (.sourceVolume i) s)
      (host.answer (.sourceVolume j) s') := by
  have hlevel : K.Level (((s.find? i).map Media.volume).getD .zero)
      (((s'.find? j).map Media.volume).getD .zero) :=
    h.read (f := fun m => (m.map Media.volume).getD .zero) (.refl _) fun _ _ hm => hm.volume
  exact ⟨.sourceVolume hij hlevel, .nil, h⟩

theorem Lookalike.tellsPaused :
    Corresponds K i j (.isPaused i) (.isPaused j) (host.answer (.isPaused i) s)
      (host.answer (.isPaused j) s') := by
  have hsame : (s.find? i).any Media.playing = (s'.find? j).any Media.playing :=
    h.read (f := fun m => m.any Media.playing) rfl fun _ _ hm => hm.playing.symm
  simp only [host]
  rw [hsame]
  exact ⟨.isPaused hij _, .nil, h⟩

theorem Lookalike.play :
    Corresponds K i j (.play i) (.play j) (host.answer (.play i) s) (host.answer (.play j) s') := by
  have hcounted := h.change (fun m => { m with plays := m.plays + 1 })
    (fun m => { m with plays := m.plays + 1 })
    (fun _ _ hm => ⟨hm.address, hm.volume, hm.playing, hm.position, hm.attached⟩)
    (fun _ => rfl) (fun _ => rfl)
  have hplaying (playing : Bool) := hcounted.change (fun m => { m with playing })
    (fun m => { m with playing })
    (fun _ _ hm => ⟨hm.address, hm.volume, rfl, hm.position, hm.attached⟩)
    (fun _ => rfl) (fun _ => rfl)
  simp only [host, Stage.play]
  rw [hcounted.script]
  split
  · exact ⟨.play hij _, .nil, hcounted⟩
  · split
    · exact ⟨.play hij _, .cons ⟨hij, rfl⟩ .nil, hplaying false⟩
    · exact ⟨.play hij _, .nil, hplaying true⟩

theorem Lookalike.pause (hscript : Evenhanded s.script i j) :
    Corresponds K i j (.pause i) (.pause j) (host.answer (.pause i) s)
      (host.answer (.pause j) s') := by
  have hhalted := h.change (fun m => { m with playing := false })
    (fun m => { m with playing := false })
    (fun _ _ hm => ⟨hm.address, hm.volume, rfl, hm.position, hm.attached⟩)
    (fun _ => rfl) (fun _ => rfl)
  have hfails : s.script.pauseFails.contains j.number = s.script.pauseFails.contains i.number := by
    rcases hscript with rfl | ⟨hnone, -⟩
    · rfl
    · rw [hnone]
      rfl
  simp only [host, Stage.pause]
  rw [h.script, hfails]
  split
  -- where a pause fails by its number, the two numbers are one
  case isTrue hfailing =>
    rcases hscript with rfl | ⟨hnone, -⟩
    · exact ⟨.pause hij _, .nil, h⟩
    · rw [hnone] at hfailing
      exact absurd hfailing (by simp)
  case isFalse =>
    have hmedia := h.media
    generalize s.find? i = m, s'.find? j = m' at hmedia ⊢
    cases hmedia with
    | none => exact ⟨.pause hij _, .nil, h⟩
    | some hm =>
      dsimp only
      rw [hm.playing, hm.position]
      split
      · exact ⟨.pause hij _, .cons ⟨hij, rfl⟩ .nil, hhalted⟩
      · exact ⟨.pause hij _, .nil, h⟩

theorem Lookalike.seek (hscript : Evenhanded s.script i j) (position : Double) :
    Corresponds K i j (.seek i position) (.seek j position) (host.answer (.seek i position) s)
      (host.answer (.seek j position) s') := by
  have hplaced := h.change (fun m => { m with position }) (fun m => { m with position })
    (fun _ _ hm => ⟨hm.address, hm.volume, hm.playing, rfl, hm.attached⟩)
    (fun _ => rfl) (fun _ => rfl)
  have hfails : s.script.seekFails.contains j.number = s.script.seekFails.contains i.number := by
    rcases hscript with rfl | ⟨-, hnone⟩
    · rfl
    · rw [hnone]
      rfl
  simp only [host, Stage.seek]
  rw [h.script, hfails]
  split
  case isTrue hfailing =>
    rcases hscript with rfl | ⟨-, hnone⟩
    · exact ⟨.seek hij _ _, .nil, h⟩
    · rw [hnone] at hfailing
      exact absurd hfailing (by simp)
  case isFalse => exact ⟨.seek hij _ _, .nil, hplaced⟩

theorem Lookalike.wrap (hnode : K.node (mediaNode i) (mediaNode j)) :
    Corresponds K i j (.wrapSource i) (.wrapSource j) (host.answer (.wrapSource i) s)
      (host.answer (.wrapSource j) s') := by
  have hattached := h.change (fun m => { m with attached := true })
    (fun m => { m with attached := true })
    (fun _ _ hm => ⟨hm.address, hm.volume, hm.playing, hm.position, rfl⟩)
    (fun _ => rfl) (fun _ => rfl)
  have hsame : (s.find? i).any Media.attached = (s'.find? j).any Media.attached :=
    h.read (f := fun m => m.any Media.attached) rfl fun _ _ hm => hm.attached.symm
  simp only [host, Stage.wrap]
  rw [h.script, ← hsame]
  split
  · exact ⟨.wrapSource hij (.error _), .nil, h⟩
  · split
    · exact ⟨.wrapSource hij (.error _), .nil, h⟩
    · exact ⟨.wrapSource hij (.ok hnode), .nil, hattached⟩

end Answers

/-- **Lookalikes answer alike**, and go on looking alike. -/
theorem Lookalike.answer (h : Lookalike K i j s s') (hscript : Evenhanded s.script i j)
    (hnode : K.node (mediaNode i) (mediaNode j)) {c c' : Call} (hc : K.Calls c c')
    (hi : c.source? = some i) (hj : c'.source? = some j) :
    Corresponds K i j c c' (host.answer c s) (host.answer c' s') := by
  obtain ⟨_, _, hc⟩ := hc
  cases hc with
  | pageAddress | supportsGraph | createContext | createBus | contextState | resume | awaitResume
  | supportsStereoPan | createPanner | connect | connectBus | setBusGain => cases hi
  | createSource hij address mode => cases hi; cases hj; exact h.create hij address mode
  | sourceAddress hij => cases hi; cases hj; exact h.tellsAddress hij
  | sourceVolume hij => cases hi; cases hj; exact h.tellsVolume hij
  | isPaused hij => cases hi; cases hj; exact h.tellsPaused hij
  -- of all settings only the volume is looked at, and that one up to the likeness
  | setVolume hij hvolume =>
    cases hi; cases hj
    exact ⟨.setVolume hij hvolume, .nil, h.change _ _
      (fun _ _ hm => ⟨hm.address, hvolume, hm.playing, hm.position, hm.attached⟩)
      (fun _ => rfl) (fun _ => rfl)⟩
  | setRate hij hrate =>
    cases hi; cases hj
    exact ⟨.setRate hij hrate, .nil, h.change _ _
      (fun _ _ hm => ⟨hm.address, hm.volume, hm.playing, hm.position, hm.attached⟩)
      (fun _ => rfl) (fun _ => rfl)⟩
  | setLooping hij looping =>
    cases hi; cases hj
    exact ⟨.setLooping hij looping, .nil, h.change _ _
      (fun _ _ hm => ⟨hm.address, hm.volume, hm.playing, hm.position, hm.attached⟩)
      (fun _ => rfl) (fun _ => rfl)⟩
  | setPreload hij eager =>
    cases hi; cases hj
    exact ⟨.setPreload hij eager, .nil, h.change _ _
      (fun _ _ hm => ⟨hm.address, hm.volume, hm.playing, hm.position, hm.attached⟩)
      (fun _ => rfl) (fun _ => rfl)⟩
  | play hij => cases hi; cases hj; exact h.play hij
  | pause hij => cases hi; cases hj; exact h.pause hij hscript
  | seek hij position => cases hi; cases hj; exact h.seek hij hscript position
  | wrapSource hij => cases hi; cases hj; exact h.wrap hij hnode

end SoundEngine.Stage
