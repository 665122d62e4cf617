import SoundEngine.Proofs.Packets
import SoundEngine.Proofs.Writing

/-!
# Packets are read as they were written

A request or a command that is written and read again is the same, with one exception: a number that is
infinite or not a number has no written form and comes back as not given.  The texts of names need no
assumption (`Json.text_written`).  A number is assumed to be read back from its written form.

A command is not read like its request, so that its way through the text is a different one.  But its
members are those of the written request behind the kind, and what a request makes of its members tells
what the command makes of them (`Command.Carries.command_of_request`).
-/

namespace SoundEngine

open Json

/-! ## 1. Requests -/

namespace EffectRequest

/-- The request without the numbers that have no written form.  An infinity and what is no number are
written as `null`, and a member that is `null` is not set when it is read. -/
def kept (r : EffectRequest) : EffectRequest :=
  { r with
    volume := r.volume.filter (·.isFinite)
    pitch := r.pitch.filter (·.isFinite)
    pan := r.pan.filter (·.isFinite) }

/-- Every number of the request that has a written form is read back from it.  This is a matter of writing
and reading single numbers, and is settled apart from the rest of the request. -/
def ReadsBack (r : EffectRequest) : Prop :=
  ∀ x, r.volume = some x ∨ r.pitch = some x ∨ r.pan = some x → x.isFinite = true →
    Decoder.ReadsBack x

/-- **The members of a written request** say what was written. -/
theorem reads_members {r : EffectRequest} (h : r.ReadsBack) :
    ∃ q, shape.objectReader.Reads r.members ⟨[], {}⟩ q ∧ q.record = r.kept := by
  have hname : shape.field? "name" = some (.of "name" ["sound"] .text fun r name => { r with name }) :=
    rfl
  have hvolume : shape.field? "volume" =
      some (.of "volume" [] (.optional .single) fun r volume => { r with volume }) := rfl
  have hpitch : shape.field? "pitch" =
      some (.of "pitch" [] (.optional .single) fun r pitch => { r with pitch }) := rfl
  have hpan : shape.field? "pan" =
      some (.of "pan" [] (.optional .single) fun r pan => { r with pan }) := rfl
  have hread₁ : Whole (shape.objectReader.member ⟨[], {}⟩) (writeMember "name" (writeText r.name))
      ⟨["name"], { name := r.name }⟩ :=
    whole_writeField hname (by simp) (Decoder.reader_map (Decoder.read_text r.name) _)
  have hnew : ∀ name, name ≠ "name" → name ∉ ["name"] := by simp
  obtain ⟨p₂, hread₂, hrecord₂, hgiven₂⟩ := reads_writeOptional
    (p := ⟨["name"], { name := r.name }⟩) hvolume (hnew "volume" (by decide))
    (fun x hx => Decoder.reader_map (Decoder.optional_single (h x (.inl hx))) _)
  obtain ⟨p₃, hread₃, hrecord₃, hgiven₃⟩ := reads_writeOptional hpitch
    (hgiven₂ "pitch" (hnew _ (by decide)) (by decide))
    (fun x hx => Decoder.reader_map (Decoder.optional_single (h x (.inr (.inl hx)))) _)
  obtain ⟨p₄, hread₄, hrecord₄, -⟩ := reads_writeOptional hpan
    (hgiven₃ "pan" (hgiven₂ "pan" (hnew _ (by decide)) (by decide)) (by decide))
    (fun x hx => Decoder.reader_map (Decoder.optional_single (h x (.inr (.inr hx)))) _)
  -- a number that is left out and one that is written as `null` are both not given
  have hrecord₂' : p₂.record = { name := r.name, volume := r.volume.filter (·.isFinite) } := by
    rw [hrecord₂]
    cases r.volume <;> rfl
  have hrecord₃' : p₃.record = { p₂.record with pitch := r.pitch.filter (·.isFinite) } := by
    rw [hrecord₃, hrecord₂']
    cases r.pitch <;> rfl
  have hrecord₄' : p₄.record = { p₃.record with pan := r.pan.filter (·.isFinite) } := by
    rw [hrecord₄, hrecord₃', hrecord₂']
    cases r.pan <;> rfl
  refine ⟨p₄, .cons hread₁ ?_, ?_⟩
  · exact ObjectReader.reads_append.mpr
      ⟨p₃, ObjectReader.reads_append.mpr ⟨p₂, hread₂, hread₃⟩, hread₄⟩
  · rw [hrecord₄', hrecord₃', hrecord₂']
    rfl

/-- Every written member is a field of the request. -/
theorem fields_members {r : EffectRequest} (h : r.ReadsBack) :
    ∀ m ∈ r.members, ∃ key, IsMember key m ∧ shape.field? key ≠ none := by
  have hnumber := Decoder.shallow_single.optional.lawful
  intro m hm
  simp only [members, List.mem_cons, List.mem_append, mem_writeOptional] at hm
  rcases hm with rfl | (⟨x, hx, rfl⟩ | ⟨x, hx, rfl⟩) | ⟨x, hx, rfl⟩
  · exact ⟨"name", isMember_writeMember Decoder.shallow_text.lawful (Decoder.read_text r.name),
      by decide⟩
  · exact ⟨"volume", isMember_writeMember hnumber (Decoder.optional_single (h x (.inl hx))),
      by decide⟩
  · exact ⟨"pitch", isMember_writeMember hnumber (Decoder.optional_single (h x (.inr (.inl hx)))),
      by decide⟩
  · exact ⟨"pan", isMember_writeMember hnumber (Decoder.optional_single (h x (.inr (.inr hx)))),
      by decide⟩

end EffectRequest

namespace MusicRequest

/-- **The members of a written request** say what was written. -/
theorem reads_members (r : MusicRequest) :
    ∃ q, shape.objectReader.Reads r.members ⟨[], {}⟩ q ∧ q.record = r := by
  have hname : shape.field? "name" = some (.of "name" ["music"] .text fun r name => { r with name }) :=
    rfl
  have hlooping : shape.field? "looping" =
      some (.of "looping" [] (.optional .flag) fun r looping => { r with looping }) := rfl
  have hread₁ : Whole (shape.objectReader.member ⟨[], {}⟩) (writeMember "name" (writeText r.name))
      ⟨["name"], { name := r.name }⟩ :=
    whole_writeField hname (by simp) (Decoder.reader_map (Decoder.read_text r.name) _)
  have hnew : "looping" ∉ ["name"] := by simp
  obtain ⟨p₂, hread₂, hrecord₂, -⟩ := reads_writeOptional
    (p := ⟨["name"], { name := r.name }⟩) hlooping hnew
    (fun b _ => Decoder.reader_map (Decoder.optional_flag b) _)
  refine ⟨p₂, .cons hread₁ hread₂, ?_⟩
  rw [hrecord₂]
  obtain ⟨name, looping⟩ := r
  cases looping <;> rfl

/-- Every written member is a field of the request. -/
theorem fields_members (r : MusicRequest) :
    ∀ m ∈ r.members, ∃ key, IsMember key m ∧ shape.field? key ≠ none := by
  intro m hm
  simp only [members, List.mem_cons, mem_writeOptional] at hm
  rcases hm with rfl | ⟨b, -, rfl⟩
  · exact ⟨"name", isMember_writeMember Decoder.shallow_text.lawful (Decoder.read_text r.name),
      by decide⟩
  · exact ⟨"looping", isMember_writeMember Decoder.shallow_flag.optional.lawful
      (Decoder.optional_flag b), by decide⟩

end MusicRequest

/-! ## 2. Documents -/

section Documents

variable {ρ : Type} {shape : RecordShape ρ}

/-- A written object is read by reading its members. -/
theorem run_writeObject (hshape : shape.Shallow) {ms : List (List Char)}
    {q : RecordShape.Partial ρ} (h : shape.objectReader.Reads ms ⟨[], shape.blank⟩ q) :
    Reader.run shape.decoder.reader (String.ofList (writeObject ms)) = .ok q.record := by
  have htext : ObjectText ms (String.ofList (writeObject ms)).toList := by
    rw [String.toList_ofList]
    exact objectText_writeObject ms
  exact (shape.readsObjects.run_iff hshape.lawful (ObjectReader.members_of_reads hshape.lawful h)
    htext).mpr ⟨q, h, rfl⟩

end Documents

namespace Command

/-- The command without the numbers that have no written form. -/
def kept : Command → Command
  | .playEffect r => .playEffect r.kept
  | c => c

/-- Every number of the command that has a written form is read back from it. -/
def ReadsBack : Command → Prop
  | .playEffect r => r.ReadsBack
  | _ => True

/-- The kind in front of the members of a request. -/
theorem isTag_written (name : String) : IsTag name (writeMember kindKey (writeText name)) := by
  obtain ⟨u, hsign, hkey⟩ := writeMember_key kindKey (writeText name)
  exact ⟨[], blank_nil, bind_eq_ok.mpr ⟨(), u, hsign, bind_eq_ok.mpr ⟨kindKey, _, hkey,
    bind_eq_ok.mpr ⟨(), writeText name, rfl, bind_eq_ok.mpr ⟨name, [], Decoder.read_text name, rfl⟩⟩⟩⟩⟩

theorem objectText_ofList (ms : List (List Char)) :
    ObjectText ms (String.ofList (writeObject ms)).toList := by
  rw [String.toList_ofList]
  exact objectText_writeObject ms

/-- **A written command is read back if the members of its request are.** -/
theorem Carries.run_written {ρ : Type} {shape : RecordShape ρ} {kind : Kind} {command : ρ → Command}
    (hc : Carries kind shape command) {name : String} (hname : kinds.lookup name = some kind)
    {ms : List (List Char)}
    (hfields : ∀ m ∈ ms, ∃ key, IsMember key m ∧ shape.field? key ≠ none) {q : RecordShape.Partial ρ}
    (h : shape.objectReader.Reads ms ⟨[], shape.blank⟩ q) :
    ofText (String.ofList (writeObject (writeMember kindKey (writeText name) :: ms))) =
      .ok (command q.record) := by
  have hbare : ObjectText ([] ++ ms) (String.ofList (writeObject ms)).toList := objectText_ofList ms
  exact hc.command_of_request hname (isTag_written name) hfields hbare
    (objectText_ofList ([] ++ _ :: ms)) (run_writeObject hc.shallow h)

/-- A written command without a request. -/
theorem run_bare {name : String} {kind : Kind} {c : Command}
    (hname : kinds.lookup name = some kind) (htake : take kind (.object []) = .ok c) :
    ofText (String.ofList (writeObject [writeMember kindKey (writeText name)])) = .ok c := by
  have htag := member_of_tag hname (isTag_written name) (g := {}) rfl
  have hreads : objectReader.Reads [writeMember kindKey (writeText name)] {} { kind := some kind } :=
    .cons htag (.nil _)
  have hcommand : Gathered.command { kind := some kind } = .ok c := htake
  exact (readsObjects.run_iff lawful_objectReader
    (ObjectReader.members_of_reads lawful_objectReader hreads) (objectText_ofList _)).mpr
    ⟨_, hreads, hcommand⟩

end Command

/-- **Reading undoes writing.**  A request or a command that is written and read is the same again:
the same kind and the same name, and every number that has a written form; a number that is infinite or
not a number comes back as not given. -/
theorem reading_undoes_writing :
    (∀ r : EffectRequest, r.ReadsBack → EffectRequest.ofText r.toText = .ok r.kept) ∧
      (∀ r : MusicRequest, MusicRequest.ofText r.toText = .ok r) ∧
      ∀ c : Command, c.ReadsBack → Command.ofText c.toText = .ok c.kept := by
  refine ⟨fun r h => ?_, fun r => ?_, fun c h => ?_⟩
  · obtain ⟨q, hreads, hrecord⟩ := EffectRequest.reads_members h
    rw [← hrecord]
    exact run_writeObject Command.shallow_effect hreads
  · obtain ⟨q, hreads, hrecord⟩ := r.reads_members
    have hrun := run_writeObject Command.shallow_music hreads
    rw [hrecord] at hrun
    exact hrun
  · cases c with
    | playEffect r =>
      obtain ⟨q, hreads, hrecord⟩ := EffectRequest.reads_members h
      have hkept : Command.kept (.playEffect r) = .playEffect q.record :=
        congrArg Command.playEffect hrecord.symm
      rw [hkept]
      exact Command.carries_effect.run_written rfl (EffectRequest.fields_members h) hreads
    | playMusic r =>
      obtain ⟨q, hreads, hrecord⟩ := r.reads_members
      have hkept : Command.kept (.playMusic r) = .playMusic q.record :=
        congrArg Command.playMusic hrecord.symm
      rw [hkept]
      exact Command.carries_music.run_written rfl r.fields_members hreads
    | stopMusic =>
      have hname : Command.kinds.lookup "stop_music" = some .stopMusic := rfl
      exact Command.run_bare hname rfl
    | stopAll =>
      have hname : Command.kinds.lookup "stop_all" = some .stopAll := rfl
      exact Command.run_bare hname rfl

/-- A request whose name needs every kind of escape, with a number that has a written form, a zero
with its sign and a number that is none. -/
def markedRequest : EffectRequest where
  name := "a \"b\" \\ \n \x01 \u00e9"
  volume := some (Binary.ofRatio false 75 2)
  pitch := some .nan
  pan := some Binary.zero.neg

theorem reading_undoes_writing_marked :
    markedRequest.ReadsBack ∧ EffectRequest.ofText markedRequest.toText = .ok markedRequest.kept ∧
      Command.ofText (Command.playEffect markedRequest).toText =
        .ok (.playEffect markedRequest.kept) := by
  have hvolume : Decoder.ReadsBack (Binary.ofRatio false 75 2) := by
    unfold Decoder.ReadsBack
    decide +kernel
  have hpan : Decoder.ReadsBack Binary.zero.neg := by
    unfold Decoder.ReadsBack
    decide +kernel
  have hback : markedRequest.ReadsBack := by
    rintro x (hx | hx | hx) hfinite
    · cases hx
      exact hvolume
    · cases hx
      cases hfinite
    · cases hx
      exact hpan
  exact ⟨hback, reading_undoes_writing.1 markedRequest hback,
    reading_undoes_writing.2.2 (.playEffect markedRequest) hback⟩

end SoundEngine
