import Mathlib.Data.List.Nodup
import Mathlib.Data.List.Perm.Basic
import SoundEngine.Mix.Settings
import SoundEngine.Proofs.Sayings

/-!
# What an object may be varied in

The members of an object come in any order, some fields have two names, and members that nobody knows are
passed over.  That what is read does not depend on any of this is no matter of course: the reader streams
and stops at the first thing that is wrong, the kind of a command may stand before or after the members
whose meaning it settles, and a field that comes twice is noticed under both of its names.

By `RecordShape.Told` it is enough to look at what members say.

* §1 has the changes (`Rephrased`), and shows that members in other words say the same, up to the order.
* §2 shows that the order of the updates makes no difference.
* §3 has the packets (`members_tolerated`).
-/

namespace SoundEngine.Json

open Reader RecordShape

/-! ## 1. Changes -/

section Changes

variable {α : Type} {shape : RecordShape α} {m m' v v' : List Char} {ms ms' : List (List Char)}
variable {key key' : String} {spellings : List (String × String)}
variable {parts parts' : List (String × (α → α))}

/-- **The members of an object in other words.**  They are put in another order, a key is replaced by
another one for the same field, and members that are no fields are left out or added.  `spellings` has
every key with the field that it stands for. -/
inductive Rephrased (spellings : List (String × String)) :
    List (List Char) → List (List Char) → Prop
  | permuted {ms ms' : List (List Char)} (h : ms.Perm ms') : Rephrased spellings ms ms'
  | respelled {before after : List (List Char)} {m m' v : List Char} {key key' : String}
    (hm : Keyed key m v) (hm' : Keyed key' m' v)
    (h : spellings.lookup key = spellings.lookup key') :
    Rephrased spellings (before ++ m :: after) (before ++ m' :: after)
  | removed {before after : List (List Char)} {m : List Char} {key : String} (hm : IsMember key m)
    (h : spellings.lookup key = none) :
    Rephrased spellings (before ++ m :: after) (before ++ after)
  | added {before after : List (List Char)} {m : List Char} {key : String} (hm : IsKept key m)
    (h : spellings.lookup key = none) :
    Rephrased spellings (before ++ after) (before ++ m :: after)
  | trans {ms ms' ms'' : List (List Char)} (h : Rephrased spellings ms ms')
    (h' : Rephrased spellings ms' ms'') : Rephrased spellings ms ms''

/-- Two of the members name one field, by the same key or by two keys that stand for it, wherever they are
among the members and whatever their values are. -/
def Repeats (spellings : List (String × String)) (ms : List (List Char)) : Prop :=
  ∃ m m' rest key key' field, ms.Perm (m :: m' :: rest) ∧ IsMember key m ∧ IsMember key' m' ∧
    spellings.lookup key = some field ∧ spellings.lookup key' = some field

/-- Values that can be kept still can. -/
theorem Rephrased.kept (h : Rephrased spellings ms ms') (hms : ∀ m ∈ ms, ∃ key, IsKept key m) :
    ∀ m ∈ ms', ∃ key, IsKept key m := by
  induction h with
  | permuted hperm => exact fun m hm => hms m (hperm.mem_iff.mpr hm)
  | respelled hm hm' _ =>
    simp only [List.forall_mem_append, List.forall_mem_cons] at hms ⊢
    obtain ⟨hbefore, ⟨key, w, hkey, hw⟩, hafter⟩ := hms
    obtain ⟨-, rfl⟩ := hkey.unique hm
    exact ⟨hbefore, ⟨_, w, hm', hw⟩, hafter⟩
  | removed _ _ =>
    simp only [List.forall_mem_append, List.forall_mem_cons] at hms ⊢
    exact ⟨hms.1, hms.2.2⟩
  | added hm _ =>
    simp only [List.forall_mem_append, List.forall_mem_cons] at hms ⊢
    exact ⟨hms.1, ⟨_, hm⟩, hms.2⟩
  | trans _ _ ih ih' => exact ih' (ih hms)

namespace RecordShape

theorem told_cons : shape.Told (m :: ms) parts ↔
    (shape.Says m none ∧ shape.Told ms parts) ∨
      ∃ part rest, shape.Says m (some part) ∧ parts = part :: rest ∧ shape.Told ms rest ∧
        part.1 ∉ rest.map Prod.fst := by
  constructor
  · rintro ⟨said, hsaid, rfl, hnodup⟩
    cases hsaid with
    | @cons _ part _ said hsaying hsaid =>
    cases part with
    | none => exact .inl ⟨hsaying, said, hsaid, rfl, hnodup⟩
    | some part =>
      obtain ⟨hname, hnodup⟩ := List.nodup_cons.mp hnodup
      exact .inr ⟨part, said.reduceOption, hsaying, rfl, ⟨said, hsaid, rfl, hnodup⟩, hname⟩
  · rintro (⟨hsaying, said, hsaid, rfl, hnodup⟩ | ⟨part, _, hsaying, rfl, ⟨said, hsaid, rfl, hnodup⟩, hname⟩)
    · exact ⟨none :: said, .cons hsaying hsaid, rfl, hnodup⟩
    · exact ⟨some part :: said, .cons hsaying hsaid, rfl, List.nodup_cons.mpr ⟨hname, hnodup⟩⟩

theorem Orderless.isMember_of_saying (hs : shape.Orderless) {part : Option (String × (α → α))}
    (h : shape.Says m part) : ∃ key, IsMember key m := by
  cases h with
  | nothing hkey _ hskip => exact ⟨_, isMember_iff_keyed.mpr ⟨_, hkey, hskip⟩⟩
  | update hkey hfield hread =>
    obtain ⟨w, hw, hread⟩ := hread
    obtain ⟨_, s, hcolon, hread⟩ := bind_eq_ok.mp hread
    have hskip := (hs.lawful _ (mem_of_field? hfield)).skips s _ w hread
    exact ⟨_, isMember_iff_keyed.mpr ⟨_, hkey, w, hw, bind_eq_ok.mpr ⟨(), s, hcolon, hskip⟩⟩⟩

theorem Orderless.members_of_told (hs : shape.Orderless) (h : shape.Told ms parts) :
    Members ms := by
  induction ms generalizing parts with
  | nil => exact List.forall_mem_nil _
  | cons m ms ih =>
    rcases told_cons.mp h with ⟨hsaying, h⟩ | ⟨_, _, hsaying, -, h, -⟩
    · exact List.forall_mem_cons.mpr ⟨hs.isMember_of_saying hsaying, ih h⟩
    · exact List.forall_mem_cons.mpr ⟨hs.isMember_of_saying hsaying, ih h⟩

/-- What members say together does not depend on their order. -/
theorem Told.perm (h : shape.Told ms parts) (hperm : ms.Perm ms') :
    ∃ parts', shape.Told ms' parts' ∧ parts.Perm parts' := by
  obtain ⟨said, hsaid, rfl, hnodup⟩ := h
  obtain ⟨said', hsaid', hperm'⟩ := List.perm_comp_forall₂ hperm.symm hsaid
  have hparts : said'.reduceOption.Perm said.reduceOption := hperm'.filterMap id
  exact ⟨_, ⟨said', hsaid', rfl, ((hparts.map Prod.fst).nodup_iff).mpr hnodup⟩, hparts.symm⟩

/-- One member is replaced by another one that says the same. -/
theorem Told.replace {before after : List (List Char)} (h : shape.Told (before ++ m :: after) parts)
    (hm : ∀ part, shape.Says m part → shape.Says m' part) :
    ∃ parts', shape.Told (before ++ m' :: after) parts' ∧ parts.Perm parts' := by
  obtain ⟨parts₁, h₁, hperm₁⟩ := h.perm List.perm_middle
  have h₂ : shape.Told (m' :: (before ++ after)) parts₁ := by
    refine told_cons.mpr ((told_cons.mp h₁).imp (fun h => ⟨hm none h.1, h.2⟩) ?_)
    rintro ⟨part, rest, hsaying, hparts⟩
    exact ⟨part, rest, hm (some part) hsaying, hparts⟩
  obtain ⟨parts₂, h₃, hperm₂⟩ := h₂.perm List.perm_middle.symm
  exact ⟨parts₂, h₃, hperm₁.trans hperm₂⟩

/-- A member that says nothing may be there or not. -/
theorem Told.drop {before after : List (List Char)} (h : shape.Told (before ++ m :: after) parts)
    (hm : ∀ part, shape.Says m part → part = none) :
    ∃ parts', shape.Told (before ++ after) parts' ∧ parts.Perm parts' := by
  obtain ⟨parts₁, h₁, hperm₁⟩ := h.perm List.perm_middle
  rcases told_cons.mp h₁ with ⟨-, h₂⟩ | ⟨part, -, hsaying, -⟩
  · exact ⟨parts₁, h₂, hperm₁⟩
  · exact absurd (hm _ hsaying) (Option.some_ne_none part)

theorem Told.insert {before after : List (List Char)} (h : shape.Told (before ++ after) parts)
    (hm : shape.Says m none) :
    ∃ parts', shape.Told (before ++ m :: after) parts' ∧ parts.Perm parts' :=
  (told_cons.mpr (.inl ⟨hm, h⟩)).perm List.perm_middle.symm

theorem Says.none_of_meaning {part : Option (String × (α → α))} (h : shape.Says m part)
    (hm : Keyed key m v) (hkey : shape.meaning key = none) : part = none := by
  cases h with
  | nothing => rfl
  | update hkeyed hfield _ =>
    obtain ⟨rfl, -⟩ := hm.unique hkeyed
    rw [meaning, hfield] at hkey
    cases hkey

theorem Says.name_of_meaning {part : Option (String × (α → α))} {field : String}
    (h : shape.Says m part) (hm : Keyed key m v) (hkey : shape.meaning key = some field) :
    ∃ u, part = some (field, u) := by
  cases h with
  | nothing hkeyed hfield _ =>
    obtain ⟨rfl, -⟩ := hm.unique hkeyed
    rw [meaning, hfield] at hkey
    cases hkey
  | update hkeyed hfield _ =>
    obtain ⟨rfl, -⟩ := hm.unique hkeyed
    rw [meaning, hfield] at hkey
    cases hkey
    exact ⟨_, rfl⟩

theorem Orderless.says_respelled (hs : shape.Orderless) {part : Option (String × (α → α))}
    (h : shape.Says m part) (hm : Keyed key m v) (hm' : Keyed key' m' v)
    (hkey : shape.meaning key = shape.meaning key') : shape.Says m' part := by
  cases h with
  | nothing hkeyed hfield hskip =>
    obtain ⟨rfl, rfl⟩ := hm.unique hkeyed
    rw [meaning, hfield] at hkey
    exact .nothing hm' (Option.map_eq_none_iff.mp hkey.symm) hskip
  | @update _ _ f _ hkeyed hfield hread =>
    obtain ⟨rfl, rfl⟩ := hm.unique hkeyed
    rw [meaning, hfield] at hkey
    obtain ⟨f', hfield', hname⟩ := Option.map_eq_some_iff.mp hkey.symm
    obtain rfl := hs.eq_of_name (mem_of_field? hfield') (mem_of_field? hfield) hname
    exact .update hm' hfield' hread

/-- A value that is read as the other one may stand in its place. -/
theorem Says.revalued {part : Option (String × (α → α))} {f : Field α} (h : shape.Says m part)
    (hm : Keyed key m v) (hm' : Keyed key m' v') (hfield : shape.field? key = some f)
    (hread : ∀ u, Whole (do colon; f.update.reader) v u → Whole (do colon; f.update.reader) v' u) :
    shape.Says m' part := by
  cases h with
  | nothing hkeyed hnone _ =>
    obtain ⟨rfl, -⟩ := hm.unique hkeyed
    rw [hfield] at hnone
    cases hnone
  | update hkeyed hsome h =>
    obtain ⟨rfl, rfl⟩ := hm.unique hkeyed
    rw [hfield] at hsome
    cases hsome
    exact .update hm' hfield (hread _ h)

/-- **Members in other words say the same.** -/
theorem Orderless.told_rephrased (hs : shape.Orderless)
    (hspell : ∀ key, spellings.lookup key = shape.meaning key) (h : Rephrased spellings ms ms')
    (htold : shape.Told ms parts) : ∃ parts', shape.Told ms' parts' ∧ parts.Perm parts' := by
  induction h generalizing parts with
  | permuted hperm => exact htold.perm hperm
  | respelled hm hm' hkey =>
    rw [hspell, hspell] at hkey
    exact htold.replace fun part hsaying => hs.says_respelled hsaying hm hm' hkey
  | removed hm hkey =>
    rw [hspell] at hkey
    obtain ⟨v, hkeyed, -⟩ := isMember_iff_keyed.mp hm
    exact htold.drop fun part hsaying => hsaying.none_of_meaning hkeyed hkey
  | added hm hkey =>
    rw [hspell] at hkey
    obtain ⟨v, hkeyed, x, hv⟩ := hm
    exact htold.insert (.nothing hkeyed (Option.map_eq_none_iff.mp hkey) (skip_of_kept hv))
  | trans _ _ ih ih' =>
    obtain ⟨parts₁, h₁, hperm₁⟩ := ih htold
    obtain ⟨parts₂, h₂, hperm₂⟩ := ih' h₁
    exact ⟨parts₂, h₂, hperm₁.trans hperm₂⟩

/-! ## 2. Updates -/

theorem Says.makes {name : String} {u : α → α} (h : shape.Says m (some (name, u))) :
    ∃ f ∈ shape.fields, f.name = name ∧ f.Makes u := by
  cases h with
  | update _ hfield hread =>
    obtain ⟨w, -, hread⟩ := hread
    obtain ⟨_, s, -, hread⟩ := bind_eq_ok.mp hread
    exact ⟨_, mem_of_field? hfield, rfl, s, w, hread⟩

theorem Told.makes (h : shape.Told ms parts) :
    ∀ part ∈ parts, ∃ f ∈ shape.fields, f.name = part.1 ∧ f.Makes part.2 := by
  induction ms generalizing parts with
  | nil =>
    obtain ⟨said, hsaid, rfl, -⟩ := h
    cases hsaid
    simp
  | cons m ms ih =>
    rcases told_cons.mp h with ⟨-, h⟩ | ⟨part, rest, hsaying, rfl, h, -⟩
    · exact ih h
    · exact List.forall_mem_cons.mpr ⟨hsaying.makes, ih h⟩

/-- **Updates of different fields may be made in any order.** -/
theorem Orderless.applied_perm (hs : shape.Orderless) (h : shape.Told ms parts)
    (hperm : parts.Perm parts') (a : α) : applied parts a = applied parts' a := by
  refine hperm.foldl_eq' (fun p hp q hq a => ?_) a
  obtain ⟨f, hf, hfname, hfu⟩ := h.makes p hp
  obtain ⟨g, hg, hgname, hgv⟩ := h.makes q hq
  obtain ⟨_, -, -, hnodup⟩ := h
  by_cases hname : p.1 = q.1
  · rw [List.inj_on_of_nodup_map hnodup hp hq hname]
  · exact ((hs.apart_of_ne hf hg (by rwa [hfname, hgname])).2 p.2 q.2 hfu hgv a).symm

/-- A field cannot be told twice. -/
theorem not_told_of_repeats (hspell : ∀ key, spellings.lookup key = shape.meaning key)
    (h : Repeats spellings ms) : ¬ shape.Told ms parts := by
  rintro htold
  obtain ⟨m, m', rest, key, key', field, hperm, hm, hm', hkey, hkey'⟩ := h
  rw [hspell] at hkey hkey'
  obtain ⟨v, hkeyed, -⟩ := isMember_iff_keyed.mp hm
  obtain ⟨v', hkeyed', -⟩ := isMember_iff_keyed.mp hm'
  obtain ⟨_, ⟨said, hsaid, rfl, hnodup⟩, -⟩ := htold.perm hperm
  cases hsaid with
  | cons hsaying hsaid =>
  cases hsaid with
  | cons hsaying' hsaid =>
  obtain ⟨u, rfl⟩ := hsaying.name_of_meaning hkeyed hkey
  obtain ⟨u', rfl⟩ := hsaying'.name_of_meaning hkeyed' hkey'
  simp [List.reduceOption_cons_of_some] at hnodup

end RecordShape

end Changes

/-- Every key of a record with its field. -/
def RecordShape.spellings {α : Type} (shape : RecordShape α) : List (String × String) :=
  shape.fields.flatMap fun f => (f.name :: f.aliases).map (·, f.name)

theorem lookup_map_pair (names : List String) (name key : String) :
    (names.map (·, name)).lookup key = if names.contains key then some name else none := by
  induction names with
  | nil => rfl
  | cons n ns ih =>
    by_cases h : key = n
    · simp [h]
    · have hne : (key == n) = false := by simpa using h
      simp [List.lookup, hne, ih, h]

theorem RecordShape.lookup_spellings {α : Type} (shape : RecordShape α) (key : String) :
    shape.spellings.lookup key = shape.meaning key := by
  unfold RecordShape.spellings meaning field?
  induction shape.fields with
  | nil => rfl
  | cons f fs ih =>
    have hanswers : f.answers key = (f.name :: f.aliases).contains key := by
      rw [Field.answers, List.contains_cons, BEq.comm]
    rw [List.flatMap_cons, List.lookup_append, ih, lookup_map_pair, ← hanswers, List.find?_cons]
    cases f.answers key <;> simp

end SoundEngine.Json

namespace SoundEngine

open Json Reader RecordShape

/-! ## 3. Packets -/

section Packets

variable {α : Type}

/-- **What a document says is told by its members alone**, and not by how they are put.  `spellings` has
the keys of the fields that the document is about. -/
structure Tolerant (read : String → Except Error α) (spellings : α → List (String × String)) :
    Prop where
  /-- An object is made of members. -/
  members : ∀ text a, read text = .ok a → IsObject text.toList →
    ∃ ms, Members ms ∧ ObjectText ms text.toList
  /-- It says the same in other words. -/
  rephrased : ∀ ms ms' text text' a, Members ms → ObjectText ms text.toList →
    ObjectText ms' text'.toList → Rephrased (spellings a) ms ms' →
      read text = .ok a → read text' = .ok a
  /-- It does not name a field twice. -/
  unrepeated : ∀ ms text a, Members ms → ObjectText ms text.toList → read text = .ok a →
    ¬ Repeats (spellings a) ms

theorem tolerant_of_orderless {shape : RecordShape α} (h : shape.Orderless) :
    Tolerant (Reader.run shape.decoder.reader) fun _ => shape.spellings where
  members := fun _ _ hread hobject =>
    shape.readsObjects.split (RecordShape.lawful h.lawful) hobject hread
  rephrased := by
    intro ms ms' text text' a hms htext htext' hchange hread
    obtain ⟨parts, htold, rfl⟩ := (h.run_iff hms htext).mp hread
    obtain ⟨parts', htold', hperm⟩ := h.told_rephrased shape.lookup_spellings hchange htold
    refine (h.run_iff (h.members_of_told htold') htext').mpr ⟨parts', htold', ?_⟩
    exact (h.applied_perm htold hperm shape.blank).symm
  unrepeated := by
    intro ms text a hms htext hread hrepeats
    obtain ⟨parts, htold, -⟩ := (h.run_iff hms htext).mp hread
    exact not_told_of_repeats shape.lookup_spellings hrepeats htold

end Packets

namespace EffectRequest

/-- The keys of a request for an effect. -/
def spellings : List (String × String) :=
  [("name", "name"), ("sound", "name"), ("volume", "volume"), ("pitch", "pitch"), ("pan", "pan")]

theorem apart_fields : shape.fields.Pairwise Field.Apart := by
  simp only [shape, List.pairwise_cons, List.forall_mem_cons, List.not_mem_nil, false_implies,
    implies_true, and_true, List.Pairwise.nil]
  refine ⟨⟨?_, ?_, ?_⟩, ⟨?_, ?_⟩, ?_⟩ <;> exact Field.apart_of (by decide) fun _ _ _ => rfl

theorem orderless_shape : shape.Orderless :=
  ⟨fun f hf => (Command.shallow_effect f hf).lawful, apart_fields⟩

end EffectRequest

namespace MusicRequest

/-- The keys of a request for music. -/
def spellings : List (String × String) :=
  [("name", "name"), ("music", "name"), ("looping", "looping")]

theorem apart_fields : shape.fields.Pairwise Field.Apart := by
  simp only [shape, List.pairwise_cons, List.forall_mem_cons, List.not_mem_nil, false_implies,
    implies_true, and_true, List.Pairwise.nil]
  exact Field.apart_of (by decide) fun _ _ _ => rfl

theorem orderless_shape : shape.Orderless :=
  ⟨fun f hf => (Command.shallow_music f hf).lawful, apart_fields⟩

end MusicRequest

namespace Gains

/-- The keys of gains. -/
def spellings : List (String × String) :=
  [("effects", "effects"), ("music", "music"), ("ambience", "ambience")]

theorem orderless_shape : shape.Orderless where
  lawful := by
    intro f hf
    obtain ⟨kind, -, rfl⟩ := List.mem_map.mp hf
    exact (Field.shallow_of Decoder.shallow_single _ _ _).lawful
  apart := by
    simp only [shape, BusKind.all, List.map_cons, List.map_nil, List.pairwise_cons,
      List.forall_mem_cons, List.not_mem_nil, false_implies, implies_true, and_true,
      List.Pairwise.nil]
    refine ⟨⟨?_, ?_⟩, ?_⟩ <;> exact Field.apart_of (by decide) fun _ _ _ => rfl

end Gains

namespace Settings

/-- The keys of settings. -/
def spellings : List (String × String) :=
  [("sound_base_url", "sound_base_url"), ("bus_defaults", "bus_defaults")]

theorem orderless_shape : shape.Orderless where
  lawful := by
    simp only [shape, List.forall_mem_cons, List.not_mem_nil, false_implies, implies_true, and_true]
    exact ⟨Decoder.shallow_text.lawful.map _,
      (RecordShape.lawful_decoder Gains.orderless_shape.lawful).map _⟩
  apart := by
    simp only [shape, List.pairwise_cons, List.forall_mem_cons, List.not_mem_nil, false_implies,
      implies_true, and_true, List.Pairwise.nil]
    exact Field.apart_of (by decide) fun _ _ _ => rfl

end Settings

namespace Command

/-- The keys of a command: that of its kind, and those of its request. -/
def spellings (c : Command) : List (String × String) :=
  (kindKey, kindKey) :: match c with
    | .playEffect _ => EffectRequest.spellings
    | .playMusic _ => MusicRequest.spellings
    | .stopMusic | .stopAll => []

/-- A command that only stops something holds an empty record. -/
def noRequest : RecordShape Unit := ⟨"", [], ()⟩

theorem lookup_eq_some {β : Type} {names : List (String × β)} (h : (names.map Prod.fst).Nodup)
    {s : String} {b : β} : names.lookup s = some b ↔ (s, b) ∈ names := by
  induction names with
  | nil => simp
  | cons n ns ih =>
    obtain ⟨hn, hns⟩ := List.nodup_cons.mp h
    obtain ⟨name, b'⟩ := n
    by_cases hs : s = name
    · subst hs
      have hnot : (s, b) ∉ ns := fun hmem => hn (List.mem_map.mpr ⟨_, hmem, rfl⟩)
      simp [hnot, eq_comm]
    · have hne : (s == name) = false := by simpa using hs
      simp [List.lookup, hne, ih hns, hs]

/-- Every kind has one written form. -/
theorem kinds_lookup {s : String} {kind : Kind} : kinds.lookup s = some kind ↔ (s, kind) ∈ kinds :=
  lookup_eq_some (by decide)

theorem bears_effect : Bears .playEffect "play_sound" EffectRequest.shape .playEffect where
  named := fun _ => kinds_lookup.trans (by simp [kinds])
  take_iff := fun _ _ _ => carries_effect.take_iff
  shallow := shallow_effect
  apart := EffectRequest.apart_fields
  noKind := by decide

theorem bears_music : Bears .playMusic "play_music" MusicRequest.shape .playMusic where
  named := fun _ => kinds_lookup.trans (by simp [kinds])
  take_iff := fun _ _ _ => carries_music.take_iff
  shallow := shallow_music
  apart := MusicRequest.apart_fields
  noKind := by decide

theorem noRequest_takeMembers (members : List (String × Value)) :
    noRequest.takeMembers members = .ok () := by
  refine takeMembers_eq_ok.mpr ⟨⟨[], ()⟩, ?_, rfl⟩
  induction members with
  | nil => rfl
  | cons _ _ ih => exact ih

theorem bears_stop {kind : Kind} {name : String} {c : Command}
    (hnamed : ∀ s, kinds.lookup s = some kind ↔ s = name)
    (htake : ∀ members, take kind (.object members) = .ok c)
    (honly : ∀ kind' v, take kind' v = .ok c → kind' = kind) :
    Bears kind name noRequest fun _ => c where
  named := hnamed
  take_iff := by
    intro kind' members r
    rw [noRequest_takeMembers]
    refine ⟨fun h => ⟨honly kind' _ h, rfl⟩, ?_⟩
    rintro ⟨rfl, -⟩
    exact htake members
  shallow := by simp [noRequest, RecordShape.Shallow]
  apart := .nil
  noKind := rfl

theorem bears_stopMusic : Bears .stopMusic "stop_music" noRequest fun _ => .stopMusic :=
  bears_stop (fun _ => kinds_lookup.trans (by simp [kinds])) (fun _ => rfl) fun _ _ h => take_ok h

theorem bears_stopAll : Bears .stopAll "stop_all" noRequest fun _ => .stopAll :=
  bears_stop (fun _ => kinds_lookup.trans (by simp [kinds])) (fun _ => rfl) fun _ _ h => take_ok h

section Kinds

variable {ρ : Type} {kind : Kind} {name : String} {shape : RecordShape ρ} {command : ρ → Command}
variable {ms ms' : List (List Char)} {text text' : String} {r : ρ}

theorem Bears.rephrased (hb : Bears kind name shape command) (hms : Members ms)
    (htext : ObjectText ms text.toList) (htext' : ObjectText ms' text'.toList)
    (hchange : Rephrased ((kindKey, kindKey) :: shape.spellings) ms ms')
    (h : ofText text = .ok (command r)) : ofText text' = .ok (command r) := by
  obtain ⟨hkept, parts, htold, hkind, rfl⟩ := (hb.run_iff hms htext).mp h
  obtain ⟨parts', htold', hperm⟩ :=
    hb.orderless.told_rephrased (tagged name shape).lookup_spellings hchange htold
  have hms' := hb.orderless.members_of_told htold'
  refine (hb.run_iff hms' htext').mpr ⟨hchange.kept hkept, parts', htold', ?_, ?_⟩
  · exact (hperm.map Prod.fst).mem_iff.mp hkind
  · exact (hb.orderless.applied_perm htold hperm shape.blank).symm

theorem Bears.unrepeated (hb : Bears kind name shape command) (hms : Members ms)
    (htext : ObjectText ms text.toList) (h : ofText text = .ok (command r)) :
    ¬ Repeats ((kindKey, kindKey) :: shape.spellings) ms := by
  obtain ⟨-, parts, htold, -⟩ := (hb.run_iff hms htext).mp h
  exact fun hrepeats => not_told_of_repeats (tagged name shape).lookup_spellings hrepeats htold

theorem isTag_iff {m : List Char} : IsTag name m ↔
    ∃ v, Keyed kindKey m v ∧ Whole (do colon; Decoder.text.reader) v name := by
  unfold IsTag Whole
  constructor
  · rintro ⟨w, hw, h⟩
    obtain ⟨_, u, hsign, h⟩ := bind_eq_ok.mp h
    obtain ⟨key, v, hkey, h⟩ := bind_eq_ok.mp h
    obtain ⟨_, u', hcolon, h⟩ := bind_eq_ok.mp h
    obtain ⟨value, w', hvalue, h⟩ := bind_eq_ok.mp h
    obtain ⟨heq, rfl⟩ := pure_eq_ok.mp h
    cases heq
    exact ⟨v, ⟨u, hsign, hkey⟩, w', hw, bind_eq_ok.mpr ⟨(), u', hcolon, hvalue⟩⟩
  · rintro ⟨v, ⟨u, hsign, hkey⟩, w, hw, h⟩
    obtain ⟨_, u', hcolon, hvalue⟩ := bind_eq_ok.mp h
    exact ⟨w, hw, bind_eq_ok.mpr ⟨(), u, hsign, bind_eq_ok.mpr ⟨kindKey, v, hkey,
      bind_eq_ok.mpr ⟨(), u', hcolon, bind_eq_ok.mpr ⟨name, w, hvalue, rfl⟩⟩⟩⟩⟩

/-- The kind of a command is the one that stands in it. -/
theorem Bears.name_of_tag (hb : Bears kind name shape command) (hms : Members ms)
    (htext : ObjectText ms text.toList) (h : ofText text = .ok (command r)) {tag : List Char}
    {name' : String} (hmem : tag ∈ ms) (htag : IsTag name' tag) : name' = name := by
  obtain ⟨-, parts, htold, -⟩ := (hb.run_iff hms htext).mp h
  obtain ⟨before, after, rfl⟩ := List.append_of_mem hmem
  obtain ⟨parts', htold', -⟩ := htold.perm List.perm_middle
  obtain ⟨part, hsaying⟩ : ∃ part, (tagged name shape).Says tag part := by
    rcases told_cons.mp htold' with ⟨hsaying, -⟩ | ⟨part, -, hsaying, -⟩
    · exact ⟨none, hsaying⟩
    · exact ⟨some part, hsaying⟩
  obtain ⟨v, hkeyed, w, -, hread⟩ := isTag_iff.mp htag
  cases hsaying with
  | nothing hkeyed' hfield _ =>
    obtain ⟨rfl, -⟩ := hkeyed.unique hkeyed'
    rw [field?_kindKey] at hfield
    cases hfield
  | update hkeyed' hfield hread' =>
    obtain ⟨rfl, rfl⟩ := hkeyed.unique hkeyed'
    rw [field?_kindKey] at hfield
    cases hfield
    obtain ⟨w', -, hread'⟩ := hread'
    obtain ⟨_, u, hcolon, hvalue⟩ := bind_eq_ok.mp hread
    obtain ⟨_, u', hcolon', hvalue'⟩ := bind_eq_ok.mp hread'
    rw [hcolon] at hcolon'
    cases hcolon'
    -- both readers are at the same text
    obtain ⟨hname, -⟩ := (kindField_reader 0).mp hvalue'
    obtain ⟨x, hx, htake⟩ := (Decoder.shallow_text.reader_eq_ok 0).mp hvalue
    rw [hx] at hname
    cases hname
    exact (Except.ok.inj htake).symm

end Kinds

/-- A command is read as one of the four kinds. -/
theorem tolerant : Tolerant ofText spellings where
  members := fun _ _ hread hobject => readsObjects.split lawful_objectReader hobject hread
  rephrased := by
    intro ms ms' text text' c hms htext htext' hchange h
    cases c with
    | playEffect r => exact bears_effect.rephrased hms htext htext' hchange h
    | playMusic r => exact bears_music.rephrased hms htext htext' hchange h
    | stopMusic => exact bears_stopMusic.rephrased (r := ()) hms htext htext' hchange h
    | stopAll => exact bears_stopAll.rephrased (r := ()) hms htext htext' hchange h
  unrepeated := by
    intro ms text c hms htext h
    cases c with
    | playEffect r => exact bears_effect.unrepeated hms htext h
    | playMusic r => exact bears_music.unrepeated hms htext h
    | stopMusic => exact bears_stopMusic.unrepeated (r := ()) hms htext h
    | stopAll => exact bears_stopAll.unrepeated (r := ()) hms htext h

end Command

/-! ### Settings and the gains in them -/

/-- The value of the member is the object with these members: what follows the key and its colon is the
text of the object. -/
def Holds (key : String) (gs : List (List Char)) (m : List Char) : Prop :=
  ∃ v s, Keyed key m v ∧ colon v = .ok ((), s) ∧ Members gs ∧ ObjectText gs s

/-- A text that is read whole is a document. -/
theorem whole_iff_run {α : Type} {r : Reader α} {s : List Char} {a : α} :
    Whole r s a ↔ Reader.run r (String.ofList s) = .ok a := by
  rw [run_eq_ok, String.toList_ofList]
  unfold Whole
  simp only [trimmed_eq_nil_iff]
  exact exists_congr fun t => and_comm

/-- Gains that are given in other words are the same gains. -/
theorem Gains.whole_rephrased {gs gs' : List (List Char)} {s s' : List Char} (hgs : Members gs)
    (hs : ObjectText gs s) (hs' : ObjectText gs' s')
    (hchange : Rephrased Gains.spellings gs gs') {g : Gains}
    (h : Whole Gains.shape.decoder.reader s g) : Whole Gains.shape.decoder.reader s' g := by
  have htolerant := tolerant_of_orderless Gains.orderless_shape
  rw [whole_iff_run] at h ⊢
  refine htolerant.rephrased gs gs' _ _ g hgs ?_ ?_ hchange h
  · rw [String.toList_ofList]
    exact hs
  · rw [String.toList_ofList]
    exact hs'

theorem Settings.gains_rephrased {before after gs gs' : List (List Char)} {m m' : List Char}
    {text text' : String} {a : Settings} (hms : Members (before ++ m :: after))
    (htext : ObjectText (before ++ m :: after) text.toList)
    (htext' : ObjectText (before ++ m' :: after) text'.toList) (hm : Holds "bus_defaults" gs m)
    (hm' : Holds "bus_defaults" gs' m') (hchange : Rephrased Gains.spellings gs gs')
    (h : Settings.ofText text = .ok a) : Settings.ofText text' = .ok a := by
  obtain ⟨v, s, hkeyed, hcolon, hgs, hs⟩ := hm
  obtain ⟨v', s', hkeyed', hcolon', -, hs'⟩ := hm'
  have horderless := Settings.orderless_shape
  obtain ⟨f, hfield, hupdate⟩ : ∃ f, Settings.shape.field? "bus_defaults" = some f ∧
      ∃ set : Gains → Settings → Settings, f.update = Gains.shape.decoder.map set :=
    ⟨_, rfl, _, rfl⟩
  obtain ⟨set, hset⟩ := hupdate
  have hread : ∀ u, Whole (do colon; f.update.reader) v u →
      Whole (do colon; f.update.reader) v' u := by
    rintro u ⟨w, hw, h⟩
    rw [hset, Decoder.map_reader] at h ⊢
    obtain ⟨_, t, hcolon₁, h⟩ := bind_eq_ok.mp h
    rw [hcolon] at hcolon₁
    cases hcolon₁
    obtain ⟨g, hg, rfl⟩ := map_eq_ok.mp h
    obtain ⟨w', hw', hg'⟩ := Gains.whole_rephrased hgs hs hs' hchange ⟨w, hw, hg⟩
    exact ⟨w', hw', bind_eq_ok.mpr ⟨(), s', hcolon', map_eq_ok.mpr ⟨g, hg', rfl⟩⟩⟩
  obtain ⟨parts, htold, rfl⟩ := (horderless.run_iff hms htext).mp h
  obtain ⟨parts', htold', hperm⟩ :=
    htold.replace fun part hsaying => hsaying.revalued hkeyed hkeyed' hfield hread
  exact (horderless.run_iff (horderless.members_of_told htold') htext').mpr
    ⟨parts', htold', (horderless.applied_perm htold hperm Settings.shape.blank).symm⟩

/-- **Gains inside settings may be given in other words.** -/
def Settings.TolerantInside : Prop :=
  ∀ (before after gs gs' : List (List Char)) (m m' : List Char) (text text' : String) (a : Settings),
    Members (before ++ m :: after) → ObjectText (before ++ m :: after) text.toList →
      ObjectText (before ++ m' :: after) text'.toList → Holds "bus_defaults" gs m →
        Holds "bus_defaults" gs' m' → Rephrased Gains.spellings gs gs' →
          Settings.ofText text = .ok a → Settings.ofText text' = .ok a

/-! ### Fields that come twice -/

namespace Command

/-- **A command of this kind that names a field twice is refused**, wherever its members stand. -/
def RefusesRepeats (name : String) (spellings : List (String × String)) : Prop :=
  ∀ (ms : List (List Char)) (text : String) (tag : List Char), Members ms →
    ObjectText ms text.toList → tag ∈ ms → IsTag name tag → Repeats spellings ms →
      ∀ c, ofText text ≠ .ok c

/-- The fields of the request are fields of the command. -/
theorem repeats_cons {sp : List (String × String)} (hsp : sp.lookup kindKey = none)
    {ms : List (List Char)} (h : Repeats sp ms) : Repeats ((kindKey, kindKey) :: sp) ms := by
  obtain ⟨m, m', rest, key, key', field, hperm, hm, hm', hkey, hkey'⟩ := h
  have hcons : ∀ {key}, sp.lookup key = some field →
      List.lookup key ((kindKey, kindKey) :: sp) = some field := by
    intro key hkey
    have hne : (key == kindKey) = false := by
      rw [beq_eq_false_iff_ne]
      rintro rfl
      rw [hsp] at hkey
      cases hkey
    simp [List.lookup, hne, hkey]
  exact ⟨m, m', rest, key, key', field, hperm, hm, hm', hcons hkey, hcons hkey'⟩

/-- The written form of a command's kind. -/
def kindName : Command → String
  | .playEffect _ => "play_sound"
  | .playMusic _ => "play_music"
  | .stopMusic => "stop_music"
  | .stopAll => "stop_all"

/-- The kind that stands in an object is the kind of what is read. -/
theorem kindName_of_tag {ms : List (List Char)} {text name : String} {tag : List Char} {c : Command}
    (hms : Members ms) (htext : ObjectText ms text.toList) (h : ofText text = .ok c)
    (hmem : tag ∈ ms) (htag : IsTag name tag) : name = c.kindName := by
  cases c with
  | playEffect r => exact bears_effect.name_of_tag hms htext h hmem htag
  | playMusic r => exact bears_music.name_of_tag hms htext h hmem htag
  | stopMusic => exact bears_stopMusic.name_of_tag (r := ()) hms htext h hmem htag
  | stopAll => exact bears_stopAll.name_of_tag (r := ()) hms htext h hmem htag

theorem refuses_effect : RefusesRepeats "play_sound" EffectRequest.spellings := by
  intro ms text tag hms htext hmem htag hrepeats c h
  cases c with
  | playEffect r => exact tolerant.unrepeated ms text _ hms htext h (repeats_cons rfl hrepeats)
  | _ => exact absurd (kindName_of_tag hms htext h hmem htag) (by simp [kindName])

theorem refuses_music : RefusesRepeats "play_music" MusicRequest.spellings := by
  intro ms text tag hms htext hmem htag hrepeats c h
  cases c with
  | playMusic r => exact tolerant.unrepeated ms text _ hms htext h (repeats_cons rfl hrepeats)
  | _ => exact absurd (kindName_of_tag hms htext h hmem htag) (by simp [kindName])

end Command

/-- **What a packet means depends neither on the order of its members nor on the names under which its
fields are given, nor on members that nobody knows**; and a field that is given twice, under whichever
of its names, is refused. -/
theorem members_tolerated :
    Tolerant EffectRequest.ofText (fun _ => EffectRequest.spellings) ∧
      Tolerant MusicRequest.ofText (fun _ => MusicRequest.spellings) ∧
      Tolerant Command.ofText Command.spellings ∧
      Tolerant Settings.ofText (fun _ => Settings.spellings) ∧
      Tolerant Gains.ofText (fun _ => Gains.spellings) ∧ Settings.TolerantInside ∧
      Command.RefusesRepeats "play_sound" EffectRequest.spellings ∧
      Command.RefusesRepeats "play_music" MusicRequest.spellings :=
  ⟨tolerant_of_orderless EffectRequest.orderless_shape,
    tolerant_of_orderless MusicRequest.orderless_shape, Command.tolerant,
    tolerant_of_orderless Settings.orderless_shape, tolerant_of_orderless Gains.orderless_shape,
    fun _ _ _ _ _ _ _ _ _ hms htext htext' hm hm' hchange h =>
      Settings.gains_rephrased hms htext htext' hm hm' hchange h,
    Command.refuses_effect, Command.refuses_music⟩

/-- A request with its members the other way round, its name under the other key and one more member;
and a command that has a name under both keys. -/
theorem members_tolerated_packets :
    EffectRequest.ofText "\x7b\"sound\":\"a\",\"x\":[1],\"pan\":5\x7d" =
        .ok { name := "a", pan := some (Binary.ofNat 5) } ∧
      ∀ c, Command.ofText "\x7b\"name\":\"a\",\"type\":\"play_sound\",\"sound\":\"b\"\x7d" ≠
        .ok c := by
  obtain ⟨heffect, -, -, -, -, -, hrefuses, -⟩ := members_tolerated
  constructor
  · have hms : Members ["\"pan\":5".toList, "\"name\":\"a\"".toList] := by
      simp only [Members, List.forall_mem_cons, List.not_mem_nil, false_implies, implies_true, and_true]
      exact ⟨⟨"pan", [], blank_nil, by decide +kernel⟩, ⟨"name", [], blank_nil, by decide +kernel⟩⟩
    have hname : Keyed "name" "\"name\":\"a\"".toList ":\"a\"".toList := ⟨_, rfl, by decide +kernel⟩
    have hsound : Keyed "sound" "\"sound\":\"a\"".toList ":\"a\"".toList :=
      ⟨_, rfl, by decide +kernel⟩
    have hadded : IsKept "x" "\"x\":[1]".toList := by
      refine ⟨":[1]".toList, ⟨_, rfl, by decide +kernel⟩, .list [.number (.integer 1)], [], blank_nil, ?_⟩
      rfl
    refine heffect.rephrased ["\"pan\":5".toList, "\"name\":\"a\"".toList]
      ["\"sound\":\"a\"".toList, "\"x\":[1]".toList, "\"pan\":5".toList]
      "\x7b\"pan\":5,\"name\":\"a\"\x7d" _ _ hms ?_ ?_ ?_ (by decide +kernel)
    · exact ⟨[], [], [], blank_nil, blank_nil, blank_nil, rfl⟩
    · exact ⟨[], [], [], blank_nil, blank_nil, blank_nil, rfl⟩
    · have hrespelled := @Rephrased.respelled EffectRequest.spellings [] ["\"pan\":5".toList] _ _ _ _ _
        hname hsound rfl
      refine .trans (.permuted (.swap _ _ _)) (.trans hrespelled ?_)
      exact @Rephrased.added _ ["\"sound\":\"a\"".toList] _ _ _ hadded rfl
  · have hmember : ∀ key m, anyMember m = .ok (key, []) → IsMember key m :=
      fun key m h => ⟨[], blank_nil, h⟩
    have hname : IsMember "name" "\"name\":\"a\"".toList := hmember _ _ (by decide +kernel)
    have htype : IsMember "type" "\"type\":\"play_sound\"".toList := hmember _ _ (by decide +kernel)
    have hsound : IsMember "sound" "\"sound\":\"b\"".toList := hmember _ _ (by decide +kernel)
    have hms : Members ["\"name\":\"a\"".toList, "\"type\":\"play_sound\"".toList,
        "\"sound\":\"b\"".toList] := by
      simp only [Members, List.forall_mem_cons, List.not_mem_nil, false_implies, implies_true, and_true]
      exact ⟨⟨_, hname⟩, ⟨_, htype⟩, ⟨_, hsound⟩⟩
    refine hrefuses _ _ _ hms ⟨[], [], [], blank_nil, blank_nil, blank_nil, rfl⟩
      (List.mem_cons_of_mem _ List.mem_cons_self) ⟨[], blank_nil, by decide +kernel⟩ ?_
    exact ⟨_, _, _, _, _, "name", .cons _ (.swap _ _ _), hname, hsound, rfl, rfl⟩

end SoundEngine
