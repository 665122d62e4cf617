import Mathlib.Data.List.Induction
import SoundEngine.Proofs.Levels
import SoundEngine.Proofs.Numerals
import SoundEngine.Proofs.Refusals
import SoundEngine.Proofs.Tolerance

/-!
# Settings are written and read again

Settings are kept as they were given, so they can hold gains that are no numbers.  Such a gain is written
as `null`, and where a gain stands `null` is refused: it does not mean that the gain is missing.  So what
decides whether settings can be read again are the gains, and of them only whether they are finite.  The
base may be any string.

* §1 writes gains and reads them, in any part of the object, and §2 does the same with settings.  What
  comes back is what each gain comes back as; if a gain is not finite then nothing does.
* §3 is what is lost: nothing, or everything (`settings_kept_or_refused`).
* §4 looks at settings that were set one by one.  A gain that is set is brought into its range, but
  not-a-number is in no range and stays what it is (`set_up_reload_iff`).
-/

namespace SoundEngine

open Json

/-! ## 1. Gains -/

/-- A gain that is not finite has no written form, and is refused whatever follows. -/
theorem Json.Decoder.single_refused {x : Single} (hx : x.isFinite = false) (rest : List Char) :
    single.reader (writeSingle x ++ rest) = .error (.wrongType .null "f32") := by
  have hnull : writeSingle x = "null".toList := by
    unfold writeSingle
    rw [hx]
    rfl
  rw [hnull]
  rfl

namespace Gains

variable {g g' : Gains} {kind : BusKind}

/-- The gain of a bus, written as a member. -/
def member (g : Gains) (kind : BusKind) : List Char :=
  writeMember kind.name (writeSingle (g.get kind))

/-- The field of a bus. -/
def field (kind : BusKind) : Json.Field Gains := .of kind.name [] .single fun g x => g.set kind x

theorem field?_name (kind : BusKind) : shape.field? kind.name = some (field kind) := by
  cases kind <;> rfl

theorem name_injective : Function.Injective BusKind.name := by
  rintro (_ | _ | _) (_ | _ | _) h <;> first | rfl | exact absurd h (by decide)

/-- **Some gains are read from what was written**, each as what it comes back as. -/
theorem reads_members (g g' : Gains) {kinds : List BusKind} {p : RecordShape.Partial Gains}
    (hnodup : kinds.Nodup)
    (hnew : ∀ kind ∈ kinds, kind.name ∉ p.given)
    (hread : ∀ kind ∈ kinds,
      Decoder.single.reader (writeSingle (g.get kind)) = .ok (g'.get kind, [])) :
    shape.objectReader.Reads (kinds.map g.member) p
      ⟨(kinds.map BusKind.name).reverse ++ p.given,
        kinds.foldl (fun r kind => r.set kind (g'.get kind)) p.record⟩ := by
  induction kinds generalizing p with
  | nil => exact .nil p
  | cons kind kinds ih =>
    obtain ⟨hkind, hnodup⟩ := List.nodup_cons.mp hnodup
    obtain ⟨hnewkind, hnew⟩ := List.forall_mem_cons.mp hnew
    obtain ⟨hreadkind, hread⟩ := List.forall_mem_cons.mp hread
    have hfirst : Whole (shape.objectReader.member p) (g.member kind)
        (p.put (field kind) fun r => r.set kind (g'.get kind)) :=
      whole_writeField (field?_name kind) hnewkind (Decoder.reader_map hreadkind _)
    have hrest := ih (p := p.put (field kind) fun r => r.set kind (g'.get kind)) hnodup
      (fun other hother hmem => ?_) hread
    · simpa [RecordShape.Partial.put, field, Field.of] using ObjectReader.Reads.cons hfirst hrest
    · rcases List.mem_cons.mp hmem with hname | hmem
      · exact hkind (name_injective hname ▸ hother)
      · exact hnew other hother hmem

theorem write_eq (g : Gains) : g.write = writeObject (BusKind.all.map g.member) := rfl

theorem lawful_objectReader : shape.objectReader.Lawful := RecordShape.lawful orderless_shape.lawful

/-- Gains come back if each of them does. -/
theorem written_read
    (h : ∀ kind, Decoder.single.reader (writeSingle (g.get kind)) = .ok (g'.get kind, [])) :
    shape.decoder.reader g.write = .ok (g', []) := by
  have hnodup : BusKind.all.Nodup := by decide
  have hreads := reads_members g g' (p := ⟨[], shape.blank⟩) hnodup (by simp) fun kind _ => h kind
  have hread := writeObject_read lawful_objectReader hreads []
  rw [List.append_nil] at hread
  exact hread

/-- **If a gain is not finite then the gains are refused**, for `null`; those in front of it are
accepted, as every finite number is. -/
theorem written_refused (h : ∃ kind, (g.get kind).isFinite = false) (rest : List Char) :
    shape.decoder.reader (g.write ++ rest) = .error (.wrongType .null "f32") := by
  -- the first gain that is not finite, and the finite ones before it
  obtain ⟨before, kind, after, hall, hkind, hbefore⟩ : ∃ before kind after,
      BusKind.all = before ++ kind :: after ∧ (g.get kind).isFinite = false ∧
        ∀ other ∈ before, (g.get other).isFinite = true := by
    obtain ⟨kind, hkind⟩ := h
    have hsome : (BusKind.all.find? fun kind => !(g.get kind).isFinite).isSome = true :=
      List.find?_isSome.mpr ⟨kind, by cases kind <;> decide, by simp [hkind]⟩
    obtain ⟨first, hfirst⟩ := Option.isSome_iff_exists.mp hsome
    obtain ⟨hbad, before, after, hall, hbefore⟩ := List.find?_eq_some_iff_append.mp hfirst
    exact ⟨before, first, after, hall, by simpa using hbad, fun o ho => by simpa using hbefore o ho⟩
  have hback : ∀ other, ∃ y, (g.get other).isFinite = true →
      Decoder.single.reader (writeSingle (g.get other)) = .ok (y, []) := by
    intro other
    cases hfin : (g.get other).isFinite with
    | true =>
      obtain ⟨y, hy⟩ := Decoder.single_written hfin
      exact ⟨y, fun _ => hy⟩
    | false => exact ⟨.zero, fun h => nomatch h⟩
  choose back hback using hback
  have hnodup : (before ++ kind :: after).Nodup := hall ▸ by decide
  have hreads := reads_members g (.of back) (p := ⟨[], shape.blank⟩)
    (List.nodup_append.mp hnodup).1 (by simp) fun other hother => by
      rw [PerBus.get_of]
      exact hback other (hbefore other hother)
  have hnew : kind.name ∉ (before.map BusKind.name).reverse ++ [] := by
    simp only [List.append_nil, List.mem_reverse, List.mem_map, not_exists, not_and]
    intro other hother hname
    exact (List.nodup_append.mp hnodup).2.2 other hother kind List.mem_cons_self
      (name_injective hname)
  have hrefuses (record : Gains) : shape.objectReader.Refuses
      ⟨(before.map BusKind.name).reverse ++ [], record⟩ (g.member kind)
      (.wrongType .null "f32") :=
    refuses_writeField (field?_name kind) hnew fun rest _ =>
      Decoder.map_refused (Decoder.single_refused hkind rest) _
  rw [write_eq, hall, List.map_append, List.map_cons]
  exact writeObject_refused lawful_objectReader hreads (hrefuses _) _ rest

end Gains

/-! ## 2. Settings -/

namespace Settings

variable {s : Settings} {g' : Gains}

theorem lawful_objectReader : shape.objectReader.Lawful := RecordShape.lawful orderless_shape.lawful

/-- The base is read first, whatever its characters are. -/
theorem whole_base (base : String) :
    Whole (shape.objectReader.member ⟨[], shape.blank⟩) (writeMember "sound_base_url" (writeText base))
      ⟨["sound_base_url"], { standard with base }⟩ := by
  have hfield : shape.field? "sound_base_url" =
      some (.of "sound_base_url" [] .text fun s base => { s with base }) := rfl
  exact whole_writeField hfield (by simp) (Decoder.reader_map (Decoder.read_text base) _)

/-- The field of the gains. -/
theorem field?_gains : shape.field? "bus_defaults" =
    some (.of "bus_defaults" [] Gains.shape.decoder fun s gains => { s with gains }) := rfl

/-- Settings come back with their base and with the gains that come back. -/
theorem written_read (h : ∀ kind,
    Decoder.single.reader (writeSingle (s.gains.get kind)) = .ok (g'.get kind, [])) :
    ofText s.toText = .ok ⟨s.base, g'⟩ := by
  have hgains := whole_writeField (p := ⟨["sound_base_url"], { standard with base := s.base }⟩)
    field?_gains (by simp [Field.of]) (Decoder.reader_map (Gains.written_read h) _)
  have hread := writeObject_read lawful_objectReader (.cons (whole_base s.base) (.cons hgains (.nil _))) []
  rw [List.append_nil] at hread
  refine run_eq_ok.mpr ⟨[], ?_, rfl⟩
  unfold toText
  rw [String.toList_ofList]
  exact hread

/-- Settings are refused if one of their gains is not finite. -/
theorem written_refused (h : ∃ kind, (s.gains.get kind).isFinite = false) :
    ofText s.toText = .error (.wrongType .null "f32") := by
  have hrefuses : shape.objectReader.Refuses ⟨["sound_base_url"], { standard with base := s.base }⟩
      (writeMember "bus_defaults" s.gains.write) (.wrongType .null "f32") :=
    refuses_writeField field?_gains (by simp [Field.of]) fun rest _ =>
      Decoder.map_refused (Gains.written_refused h rest) _
  have hread := writeObject_refused lawful_objectReader
    (.cons (whole_base s.base) (.nil _)) hrefuses [] []
  rw [List.append_nil] at hread
  refine run_refused ?_
  unfold toText
  rw [String.toList_ofList]
  exact hread

/-- Finite gains come back as some gains, and the base as it was. -/
theorem written_accepted (h : ∀ kind, (s.gains.get kind).isFinite = true) :
    ∃ gains, ofText s.toText = .ok ⟨s.base, gains⟩ := by
  choose back hback using fun kind => Decoder.single_written (h kind)
  refine ⟨.of back, written_read fun kind => ?_⟩
  rw [PerBus.get_of]
  exact hback kind

theorem finite_of_accepted {t : Settings} (h : ofText s.toText = .ok t) (kind : BusKind) :
    (s.gains.get kind).isFinite = true := by
  by_contra hkind
  rw [written_refused ⟨kind, by simpa using hkind⟩] at h
  cases h

/-- **Settings can be read again if and only if their gains are finite.** -/
theorem written_read_iff :
    (∃ t, ofText s.toText = .ok t) ↔ ∀ kind, (s.gains.get kind).isFinite = true := by
  constructor
  · rintro ⟨t, ht⟩
    exact finite_of_accepted ht
  · intro hfinite
    obtain ⟨gains, hread⟩ := written_accepted hfinite
    exact ⟨_, hread⟩

/-- Settings that are read again have the base that was written. -/
theorem base_of_accepted {t : Settings} (h : ofText s.toText = .ok t) : t.base = s.base := by
  obtain ⟨gains, hread⟩ := written_accepted (finite_of_accepted h)
  cases h.symm.trans hread
  rfl

end Settings

/-! ## 3. What is kept -/

/-- **Settings are kept or refused, and nothing between.**  For every base and all gains:

* if the gains are finite, and each of them is read back from its written form, then what is written is
  read as the same settings, with the base and the gains as they were given;
* if some gain is infinite or not a number, then what is written is refused, for the `null` that stands
  in the place of a number.  This is a refusal of the content, and no gain is replaced by another one. -/
theorem settings_kept_or_refused (s : Settings) :
    ((∀ kind, (s.gains.get kind).isFinite = true ∧ Decoder.ReadsBack (s.gains.get kind)) →
      Settings.ofText s.toText = .ok s) ∧
    ((∃ kind, (s.gains.get kind).isFinite = false) →
      ∃ e, Settings.ofText s.toText = .error e ∧ e.category = .data ∧
        Settings.refusal e = "Invalid engine configuration: invalid type: null, expected f32") := by
  refine ⟨fun h => ?_, fun h => ⟨_, Settings.written_refused h, rfl, by decide⟩⟩
  exact Settings.written_read fun kind => (h kind).2

/-- Settings whose base needs escapes, with gains out of their range. -/
def markedSettings : Settings where
  base := "a \"b\" \\ \n \x01 \u00e9"
  gains := ⟨Binary.ofRatio false 75 2, Binary.zero.neg, Binary.ofRatio true 1 5⟩

/-- The same settings without a number for the music. -/
def silentSettings : Settings :=
  { markedSettings with gains := markedSettings.gains.set .music .nan }

theorem settings_kept_or_refused_marked :
    (∀ kind, (markedSettings.gains.get kind).isFinite = true ∧
      Decoder.ReadsBack (markedSettings.gains.get kind)) ∧
    Settings.ofText markedSettings.toText = .ok markedSettings ∧
    (silentSettings.gains.get .music).isFinite = false ∧
    ∃ e, Settings.ofText silentSettings.toText = .error e ∧ e.category = .data := by
  have hback : ∀ kind, (markedSettings.gains.get kind).isFinite = true ∧
      Decoder.ReadsBack (markedSettings.gains.get kind) := by
    intro kind
    unfold Decoder.ReadsBack
    cases kind <;> decide +kernel
  have hsilent : (silentSettings.gains.get .music).isFinite = false := rfl
  obtain ⟨e, he, hdata, -⟩ := (settings_kept_or_refused silentSettings).2 ⟨.music, hsilent⟩
  exact ⟨hback, (settings_kept_or_refused markedSettings).1 hback, hsilent, e, he, hdata⟩

/-! ## 4. Settings that were set up one by one -/

/-- One thing that is set. -/
inductive Setting where
  | base (base : String)
  | gain (kind : BusKind) (gain : Single)

namespace Setting

/-- The settings after one thing was set. -/
def apply (s : Settings) : Setting → Settings
  | .base b => s.withBase b
  | .gain kind x => s.withGain kind x

/-- The gain that is set for a bus. -/
def gain? (kind : BusKind) : Setting → Option Single
  | .gain other x => if other = kind then some x else none
  | .base _ => none

end Setting

namespace Settings

/-- The standard settings after some things were set, in their order.  These are all settings that a
program can come to without a document. -/
def setUp (steps : List Setting) : Settings := steps.foldl Setting.apply standard

/-- The last gain that was set for a bus, if any was. -/
def lastGain? (kind : BusKind) (steps : List Setting) : Option Single :=
  (steps.filterMap (Setting.gain? kind)).getLast?

/-- A gain brought into its range, where not-a-number is kept. -/
def unit (x : Single) : Single := x.clamp (Level.whole 0) (Level.whole 1)

/-- What one step does to the gain of a bus. -/
theorem apply_gain (s : Settings) (step : Setting) (kind : BusKind) :
    (step.apply s).gains.get kind = ((step.gain? kind).map unit).getD (s.gains.get kind) := by
  cases step with
  | base b => rfl
  | gain other x =>
    change (s.gains.set other (unit x)).get kind =
      ((if other = kind then some x else none).map unit).getD (s.gains.get kind)
    split
    · next h =>
      subst h
      exact PerBus.get_set_self _ _ _
    · next h => exact PerBus.get_set_of_ne _ _ fun heq => h heq.symm

/-- **The gain of a bus is the last one that was set**, brought into its range. -/
theorem setUp_gain (steps : List Setting) (kind : BusKind) :
    (setUp steps).gains.get kind =
      ((lastGain? kind steps).map unit).getD (standard.gains.get kind) := by
  unfold setUp lastGain?
  induction steps using List.reverseRecOn with
  | nil => rfl
  | append_singleton steps step ih =>
    rw [List.foldl_append, List.filterMap_append, List.foldl_cons, List.foldl_nil, apply_gain, ih]
    cases hstep : step.gain? kind with
    | none => simp [hstep]
    | some x => simp [hstep]

theorem standard_within (kind : BusKind) :
    Binary.Within (Level.whole 0) (Level.whole 1) (standard.gains.get kind) := by
  cases kind <;> decide

/-- A number between zero and one is finite. -/
theorem finite_of_within {x : Single} (h : Binary.Within (Level.whole 0) (Level.whole 1) x) :
    x.isFinite = true := by
  have hzero : Level.whole 0 = (.zero : Single) := by decide
  have hone : Level.whole 1 = (.number false ⟨0x3f800000, by decide⟩ : Single) := by decide
  rw [hzero, hone] at h
  obtain ⟨s, m, -, -, rfl, -⟩ := Binary.numbers_of_le h.2
  obtain ⟨hle, -⟩ := Binary.within_zero_iff.mp h
  have hfin : (0x3f800000 : Nat) < Format.single.infinity := by decide
  exact decide_eq_true (Nat.lt_of_le_of_lt hle hfin)

/-- Every gain that was set up is in its range, or it is no number, and then none was given. -/
theorem setUp_cases (steps : List Setting) (kind : BusKind) :
    lastGain? kind steps = some .nan ∧ (setUp steps).gains.get kind = .nan ∨
      lastGain? kind steps ≠ some .nan ∧
        Binary.Within (Level.whole 0) (Level.whole 1) ((setUp steps).gains.get kind) := by
  rw [setUp_gain]
  cases lastGain? kind steps with
  | none => exact .inr ⟨by simp, standard_within kind⟩
  | some x =>
    cases x with
    | nan => exact .inl ⟨rfl, rfl⟩
    | number s m => exact .inr ⟨by simp, Binary.within_clamp rfl Level.unit_range⟩

end Settings

/-- **What was set up can be read again unless a gain that was set is no number.**  For all strings and
gains, set in any order and any number of times, and so after each of the steps:

* a gain is in its range, unless the last gain that was set for its bus is not a number; then it is not a
  number either;
* what is written is accepted if and only if no bus was given such a gain last, and then it has the
  base that was set. -/
theorem set_up_reload_iff (steps : List Setting) :
    (∀ kind, Settings.lastGain? kind steps ≠ some .nan →
      Binary.Within (Level.whole 0) (Level.whole 1) ((Settings.setUp steps).gains.get kind)) ∧
    (∀ kind, Settings.lastGain? kind steps = some .nan →
      (Settings.setUp steps).gains.get kind = .nan) ∧
    ((∃ t, Settings.ofText (Settings.setUp steps).toText = .ok t) ↔
      ∀ kind, Settings.lastGain? kind steps ≠ some .nan) ∧
    ∀ t, Settings.ofText (Settings.setUp steps).toText = .ok t →
      t.base = (Settings.setUp steps).base := by
  have hwithin : ∀ kind, Settings.lastGain? kind steps ≠ some .nan →
      Binary.Within (Level.whole 0) (Level.whole 1) ((Settings.setUp steps).gains.get kind) := by
    intro kind hlast
    rcases Settings.setUp_cases steps kind with ⟨hnan, -⟩ | ⟨-, h⟩
    · exact absurd hnan hlast
    · exact h
  have hnan : ∀ kind, Settings.lastGain? kind steps = some .nan →
      (Settings.setUp steps).gains.get kind = .nan := by
    intro kind hlast
    rcases Settings.setUp_cases steps kind with ⟨-, h⟩ | ⟨hother, -⟩
    · exact h
    · exact absurd hlast hother
  refine ⟨hwithin, hnan, ?_, fun _ => Settings.base_of_accepted⟩
  -- of the gains that the calls can leave, only NaN is not finite
  rw [Settings.written_read_iff]
  constructor
  · intro hfinite kind hlast
    have hkind := hfinite kind
    rw [hnan kind hlast] at hkind
    cases hkind
  · exact fun hlast kind => Settings.finite_of_within (hwithin kind (hlast kind))

/-- Not-a-number is forgiven when another gain follows it. -/
theorem set_up_reload_amended :
    let steps : List Setting := [.gain .effects .nan, .base "\n", .gain .music (.infinite true),
      .gain .effects (.infinite false)]
    (∀ kind, Settings.lastGain? kind steps ≠ some .nan) ∧
      Binary.Within (Level.whole 0) (Level.whole 1) ((Settings.setUp steps).gains.get .effects) ∧
      ∃ t, Settings.ofText (Settings.setUp steps).toText = .ok t ∧ t.base = "\n" := by
  intro steps
  have hlast : ∀ kind, Settings.lastGain? kind steps ≠ some .nan := by
    intro kind
    cases kind <;> decide
  obtain ⟨hwithin, -, hreload, hbase⟩ := set_up_reload_iff steps
  obtain ⟨t, ht⟩ := hreload.mpr hlast
  exact ⟨hlast, hwithin .effects (hlast .effects), t, ht, hbase t ht⟩

/-- One gain that is not a number is enough: it is stored as it is, and what is written is refused. -/
theorem set_up_not_reloaded :
    let s := Settings.setUp [.gain .effects .nan]
    ¬ Binary.Within (Level.whole 0) (Level.whole 1) (s.gains.get .effects) ∧
      ∀ t, Settings.ofText s.toText ≠ .ok t := by
  intro s
  have hrefused : Settings.ofText s.toText = .error (.wrongType .null "f32") :=
    Settings.written_refused ⟨.effects, rfl⟩
  refine ⟨by decide, fun t ht => ?_⟩
  rw [hrefused] at ht
  cases ht

end SoundEngine
