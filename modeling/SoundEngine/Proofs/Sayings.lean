import Mathlib.Data.List.Pairwise
import Mathlib.Data.List.ReduceOption
import SoundEngine.Proofs.Packets

/-!
# What the members of an object say

A record is put together while its members come, and a command keeps them until its kind is known.  What
is read is in both cases told by what the members say one by one (`RecordShape.Told`): a member says
nothing or updates one field, and no field may be updated twice.  None of this knows an order, or the
name under which a field was given.

* §1 shows that a record, read as the value of a member, takes that value and nothing else.
* §2 has what a member says, and what the members of a record say together (`RecordShape.reads_iff`).
* §3 brings commands into the same form: a command of a kind is read as a record with one more field,
  which is its kind, and its members are kept (`Command.Bears.run_iff`).
-/

namespace SoundEngine.Json

open Reader

variable {α β : Type}

/-! ## 1. Records as values -/

section Records

variable {s t : List Char} {shape : RecordShape α}

theorem takes_closeList : Takes 1 closeList := by
  intro s a rest h
  obtain ⟨hc, w, hw, rfl⟩ := trimmed_eq_cons (closeList_eq_ok.mp h)
  refine ⟨w ++ [']'], by simp, by simp, fun t _ => ?_⟩
  rw [List.append_assoc]
  refine closeList_eq_ok.mpr ?_
  rw [trimmed_append hw]
  exact trimmed_cons hc t

theorem nextItem_length {first more : Bool} (h : nextItem first s = .ok (more, t)) :
    t.length ≤ s.length := by
  have htrimmed := length_trimmed_le s
  cases more with
  | false =>
    rw [nextItem_no.mp h, List.length_cons] at htrimmed
    omega
  | true =>
    cases first with
    | true =>
      rw [(nextItem_first.mp h).1] at htrimmed
      exact htrimmed
    | false =>
      obtain ⟨rest, htrim, hnext⟩ := nextItem_next.mp h
      have hrest := length_trimmed_le rest
      rw [(nextItem_first.mp hnext).1] at hrest
      rw [htrim, List.length_cons] at htrimmed
      omega

theorem takes_readItems {fields : List (Field α)} (hfields : ∀ f ∈ fields, f.update.Lawful)
    (first : Bool) (a : α) : Takes 1 (RecordShape.readItems fields first a) := by
  induction fields generalizing first a with
  | nil => exact takes_closeList.andThen fun _ => takes_pure a
  | cons f fs ih =>
    obtain ⟨hf, hfs⟩ := List.forall_mem_cons.mp hfields
    refine takes_nextItem (Takes.ite (fun _ => ?_) fun hno => absurd rfl hno)
      (Takes.ite (fun hyes => absurd hyes Bool.false_ne_true) fun _ => takes_pure a)
    exact hf.takes.andThen fun update => (ih hfs false (update a)).mono (Nat.zero_le 1)

theorem skip_of_readItems {fields : List (Field α)} (hfields : ∀ f ∈ fields, f.update.Lawful)
    {first : Bool} {a r : α} {depth : Nat} (hdepth : s.length < depth)
    (h : RecordShape.readItems fields first a s = .ok (r, t)) :
    loop (passItemStep (passWithin depth)) first s = .ok ((), t) := by
  have hturns := takes_passItemStep (takes_passWithin depth)
  induction fields generalizing first a s with
  | nil =>
    obtain ⟨hclosed, -⟩ := Command.readItems_nil.mp h
    exact (loop_eq_ok hturns).mpr (.inr (passItemStep_of_end (nextItem_no.mpr hclosed)))
  | cons f fs ih =>
    obtain ⟨hf, hfs⟩ := List.forall_mem_cons.mp hfields
    rcases Command.readItems_cons.mp h with ⟨hnext, -⟩ | ⟨u, hnext, update, v, hread, hrest⟩
    · exact (loop_eq_ok hturns).mpr (.inr (passItemStep_of_end hnext))
    · have hu : u.length ≤ s.length := nextItem_length hnext
      have hv := hf.takes.length_le hread
      have hskip : passWithin depth u = .ok ((), v) :=
        passWithin_enough (hf.skips u update v hread) (by omega)
      exact (loop_eq_ok hturns).mpr (.inl ⟨false, v,
        passItemStep_of_nextItem (trims_passWithin depth) hnext hskip, ih hfs (by omega) hrest⟩)

theorem ObjectReader.skip_of_read {σ : Type} {o : ObjectReader σ α} (ho : o.Lawful) {a : σ} {x : α}
    {depth : Nat} (hdepth : s.length < depth) (h : o.read a s = .ok (x, t)) :
    loop (passMemberStep (passWithin depth)) true s = .ok ((), t) := by
  have hsame : ∃ y, loop (passMemberStep (passWithin depth)) true s = .ok (y, t) ∧ True := by
    refine loop_simulates (passMemberStep (passWithin depth))
      (fun st first s => st.1 = first ∧ s.length < depth) (fun _ _ => True) ?_ ?_ ⟨rfl, hdepth⟩ h
    · rintro st _ s st' rest ⟨rfl, hlen⟩ hturn
      have hrest := (o.takes_step ho st).length_le hturn
      obtain ⟨u, hnext, key, v, hkey, hbody, hfirst⟩ := ObjectReader.step_inl.mp hturn
      obtain ⟨_, w, hcolon, hskip⟩ := bind_eq_ok.mp (ho.skips key st.2 v st'.2 rest hbody)
      have hu := (takes_nextMember : Takes 1 (nextMember st.1)).length_le hnext
      have hv := takes_text.length_le hkey
      have hw := takes_colon.length_le hcolon
      have hpass : passWithin depth w = .ok ((), rest) := passWithin_enough hskip (by omega)
      exact ⟨false, passMemberStep_of_nextMember hnext hkey hcolon hpass, hfirst, by omega⟩
    · rintro ⟨first, a⟩ _ s x rest ⟨rfl, hlen⟩ hturn
      obtain ⟨hclosed, -⟩ := ObjectReader.step_end.mp hturn
      exact ⟨(), passMemberStep_of_end (nextMember_no.mpr hclosed), trivial⟩
  obtain ⟨_, hloop, -⟩ := hsame
  exact hloop

/-- **A record is a value like any other**: its reader takes it and nothing else. -/
theorem RecordShape.lawful_decoder (hfields : ∀ f ∈ shape.fields, f.update.Lawful) :
    shape.decoder.Lawful where
  takes := by
    refine takes_head.andThen fun h => ?_
    cases h with
    | list => exact (takes_readItems hfields true shape.blank).mono (Nat.zero_le 1)
    | object =>
      have hstep : shape.memberStep = shape.objectReader.step := funext shape.memberStep_eq
      change Takes 0 (loop shape.memberStep _)
      rw [hstep]
      exact (Takes.loop (shape.objectReader.takes_step (lawful hfields)) _).mono (Nat.zero_le 1)
    | _ => exact takes_fail _
  skips := by
    intro s x t h
    obtain ⟨hd, u, hhead, hrest⟩ := bind_eq_ok.mp h
    refine skip_eq_ok.mpr ⟨u.length + 1 + 1, ?_⟩
    cases hd with
    | list =>
      have hloop := skip_of_readItems hfields (Nat.lt_succ_self _) hrest
      unfold passWithin
      rw [trimmed_of_list hhead]
      simpa using hloop
    | object =>
      have hread : shape.objectReader.read ⟨[], shape.blank⟩ u = .ok (x, t) := by
        rw [← shape.readsObjects s u (trimmed_of_object hhead)]
        exact h
      have hloop := (shape.objectReader).skip_of_read (lawful hfields) (Nat.lt_succ_self _) hread
      unfold passWithin
      rw [trimmed_of_object hhead]
      simpa using hloop
    | _ => cases hrest

theorem Decoder.map_reader (d : Decoder α) (f : α → β) : (d.map f).reader = f <$> d.reader := by
  change (head >>= fun h => f <$> d.read h) = f <$> (head >>= d.read)
  rw [map_bind]

theorem Decoder.Lawful.map {d : Decoder α} (hd : d.Lawful) (f : α → β) : (d.map f).Lawful := by
  constructor
  · rw [map_reader]
    exact hd.takes.map f
  · intro s b t h
    rw [map_reader] at h
    obtain ⟨a, ha, -⟩ := map_eq_ok.mp h
    exact hd.skips s a t ha

end Records

/-! ## 2. What members say -/

section Saying

variable {s t m v w : List Char} {ms : List (List Char)} {key key' : String}

/-- The text of a member with this key, and what follows the key. -/
def Keyed (key : String) (m v : List Char) : Prop :=
  ∃ u, passKeySign m = .ok ((), u) ∧ text u = .ok (key, v)

theorem Keyed.unique (h : Keyed key m v) (h' : Keyed key' m w) : key = key' ∧ v = w := by
  obtain ⟨u, hsign, hkey⟩ := h
  obtain ⟨u', hsign', hkey'⟩ := h'
  rw [hsign] at hsign'
  cases hsign'
  rw [hkey] at hkey'
  cases hkey'
  exact ⟨rfl, rfl⟩

theorem isMember_iff_keyed :
    IsMember key m ↔ ∃ v, Keyed key m v ∧ Whole (do colon; skip) v () := by
  rw [isMember_iff]
  constructor
  · rintro ⟨u, v, w, hsign, hkey, hskip, hw⟩
    exact ⟨v, ⟨u, hsign, hkey⟩, w, hw, hskip⟩
  · rintro ⟨v, ⟨u, hsign, hkey⟩, w, hw, hskip⟩
    exact ⟨u, v, w, hsign, hkey, hskip, hw⟩

/-- A member whose value is kept by a reader that keeps what it reads. -/
def IsKept (key : String) (m : List Char) : Prop :=
  ∃ v, Keyed key m v ∧ ∃ x, Whole (do colon; value (depthLimit - 1)) v x

theorem skip_of_kept {depth : Nat} {x : Value} (hv : Whole (do colon; value depth) v x) :
    Whole (do colon; skip) v () := by
  obtain ⟨w, hw, hread⟩ := hv
  obtain ⟨_, u, hcolon, hvalue⟩ := bind_eq_ok.mp hread
  exact ⟨w, hw, bind_eq_ok.mpr ⟨(), u, hcolon, skip_of_value hvalue⟩⟩

theorem ObjectReader.whole_member {σ : Type} {o : ObjectReader σ α} {a b : σ} :
    Whole (o.member a) m b ↔ ∃ key v, Keyed key m v ∧ Whole (o.body key a) v b := by
  unfold Whole
  simp only [member_eq_ok]
  constructor
  · rintro ⟨w, hw, u, key, v, hsign, hkey, hbody⟩
    exact ⟨key, v, ⟨u, hsign, hkey⟩, w, hw, hbody⟩
  · rintro ⟨key, v, ⟨u, hsign, hkey⟩, w, hw, hbody⟩
    exact ⟨w, hw, u, key, v, hsign, hkey, hbody⟩

/-- The field has this update for some value. -/
def Field.Makes (f : Field α) (update : α → α) : Prop := ∃ s t, f.update.reader s = .ok (update, t)

/-- Two fields with names of their own, which may be given in either order. -/
def Field.Apart (f g : Field α) : Prop :=
  f.name ≠ g.name ∧ ∀ u v, f.Makes u → g.Makes v → ∀ a, u (v a) = v (u a)

theorem Field.Apart.symm {f g : Field α} (h : f.Apart g) : g.Apart f :=
  ⟨h.1.symm, fun u v hu hv a => (h.2 v u hv hu a).symm⟩

instance : Std.Symm (@Field.Apart α) := ⟨fun _ _ h => h.symm⟩

theorem Field.makes_of {d : Decoder β} {name : String} {aliases : List String} {set : α → β → α}
    {u : α → α} (h : (Field.of name aliases d set).Makes u) : ∃ b, u = fun a => set a b := by
  obtain ⟨s, t, h⟩ := h
  obtain ⟨hd, w, -, h⟩ := bind_eq_ok.mp h
  obtain ⟨b, -, rfl⟩ := map_eq_ok.mp h
  exact ⟨b, rfl⟩

/-- Two setters that do not get in each other's way. -/
theorem Field.apart_of {γ : Type} {d : Decoder β} {d' : Decoder γ} {name name' : String}
    {aliases aliases' : List String} {set : α → β → α} {set' : α → γ → α} (hname : name ≠ name')
    (hset : ∀ a b c, set (set' a c) b = set' (set a b) c) :
    (Field.of name aliases d set).Apart (Field.of name' aliases' d' set') := by
  refine ⟨hname, fun u v hu hv a => ?_⟩
  obtain ⟨b, rfl⟩ := makes_of hu
  obtain ⟨c, rfl⟩ := makes_of hv
  exact hset a b c

namespace RecordShape

variable {shape : RecordShape α}

/-- A record whose fields can be given in any order. -/
structure Orderless (shape : RecordShape α) : Prop where
  lawful : ∀ f ∈ shape.fields, f.update.Lawful
  apart : shape.fields.Pairwise Field.Apart

/-- The name of the field that a key stands for. -/
def meaning (shape : RecordShape α) (key : String) : Option String :=
  (shape.field? key).map Field.name

theorem Orderless.apart_of_ne (h : shape.Orderless) {f g : Field α} (hf : f ∈ shape.fields)
    (hg : g ∈ shape.fields) (hne : f.name ≠ g.name) : f.Apart g :=
  h.apart.forall hf hg fun heq => hne (congrArg Field.name heq)

/-- The name tells the field. -/
theorem Orderless.eq_of_name (h : shape.Orderless) {f g : Field α} (hf : f ∈ shape.fields)
    (hg : g ∈ shape.fields) (hname : f.name = g.name) : f = g := by
  by_contra hne
  exact (h.apart.forall hf hg hne).1 hname

/-- What a member says: nothing, or the update of the field that is named. -/
inductive Says (shape : RecordShape α) (m : List Char) : Option (String × (α → α)) → Prop
  | nothing {key : String} {v : List Char} (hkey : Keyed key m v)
    (hfield : shape.field? key = none) (hskip : Whole (do colon; skip) v ()) : Says shape m none
  | update {key : String} {v : List Char} {f : Field α} {u : α → α} (hkey : Keyed key m v)
    (hfield : shape.field? key = some f) (hread : Whole (do colon; f.update.reader) v u) :
    Says shape m (some (f.name, u))

/-- What the members of a record say together: at most one update of each field. -/
def Told (shape : RecordShape α) (ms : List (List Char)) (parts : List (String × (α → α))) : Prop :=
  ∃ said, List.Forall₂ shape.Says ms said ∧ said.reduceOption = parts ∧ (parts.map Prod.fst).Nodup

/-- The record after the updates. -/
def applied (parts : List (String × (α → α))) (a : α) : α := parts.foldl (fun a p => p.2 a) a

/-- The field has not come. -/
theorem check_eq_ok {p : Partial α} {f : Field α} : p.check f = .ok () ↔ f.name ∉ p.given := by
  unfold Partial.check
  by_cases h : f.name ∈ p.given
  · simp [h]
  · simp [h]

theorem whole_member {p q : Partial α} :
    Whole (shape.objectReader.member p) m q ↔
      (shape.Says m none ∧ q = p) ∨
        ∃ name u, shape.Says m (some (name, u)) ∧ name ∉ p.given ∧
          q = ⟨name :: p.given, u p.record⟩ := by
  rw [ObjectReader.whole_member]
  constructor
  · rintro ⟨key, v, hkey, w, hw, hbody⟩
    cases hfield : shape.field? key with
    | none =>
      obtain ⟨hskip, rfl⟩ := (body_none hfield).mp hbody
      exact .inl ⟨.nothing hkey hfield ⟨w, hw, hskip⟩, rfl⟩
    | some f =>
      obtain ⟨hcheck, u, hcolon, update, hread, rfl⟩ := (body_some hfield).mp hbody
      exact .inr ⟨f.name, update, .update hkey hfield ⟨w, hw, bind_eq_ok.mpr ⟨(), u, hcolon, hread⟩⟩,
        check_eq_ok.mp hcheck, rfl⟩
  · rintro (⟨hsaying, rfl⟩ | ⟨name, u, hsaying, hnew, rfl⟩)
    · cases hsaying with
      | nothing hkey hfield hskip =>
        obtain ⟨w, hw, hskip⟩ := hskip
        exact ⟨_, _, hkey, w, hw, (body_none hfield).mpr ⟨hskip, rfl⟩⟩
    · cases hsaying with
      | update hkey hfield hread =>
        obtain ⟨w, hw, hread⟩ := hread
        obtain ⟨_, s, hcolon, hread⟩ := bind_eq_ok.mp hread
        exact ⟨_, _, hkey, w, hw, (body_some hfield).mpr
          ⟨check_eq_ok.mpr hnew, s, hcolon, u, hread, rfl⟩⟩

/-- **A record is what its members say.** -/
theorem reads_iff {p q : Partial α} :
    shape.objectReader.Reads ms p q ↔ ∃ parts, shape.Told ms parts ∧
      (∀ part ∈ parts, part.1 ∉ p.given) ∧
        q = ⟨(parts.map Prod.fst).reverse ++ p.given, applied parts p.record⟩ := by
  -- the names given so far grow by one with each member that says something
  induction ms generalizing p with
  | nil =>
    rw [ObjectReader.reads_nil]
    constructor
    · rintro rfl
      exact ⟨[], ⟨[], .nil, rfl, List.nodup_nil⟩, by simp, rfl⟩
    · rintro ⟨parts, ⟨said, hsaid, rfl, -⟩, -, rfl⟩
      cases hsaid
      rfl
  | cons m ms ih =>
    simp only [ObjectReader.reads_cons, whole_member, ih]
    constructor
    · rintro ⟨b, ⟨hsaying, rfl⟩ | ⟨name, u, hsaying, hnew, rfl⟩, parts, ⟨said, hsaid, rfl, hnodup⟩,
        hgiven, rfl⟩
      · exact ⟨said.reduceOption, ⟨none :: said, .cons hsaying hsaid, rfl, hnodup⟩, hgiven, rfl⟩
      · have hname : name ∉ said.reduceOption.map Prod.fst := by
          intro hmem
          obtain ⟨part, hpart, rfl⟩ := List.mem_map.mp hmem
          exact hgiven part hpart List.mem_cons_self
        refine ⟨(name, u) :: said.reduceOption,
          ⟨some (name, u) :: said, .cons hsaying hsaid, rfl, List.nodup_cons.mpr ⟨hname, hnodup⟩⟩,
          List.forall_mem_cons.mpr ⟨hnew, fun part hpart hmem =>
            hgiven part hpart (List.mem_cons_of_mem name hmem)⟩, ?_⟩
        simp [applied]
    · rintro ⟨parts, ⟨said, hsaid, rfl, hnodup⟩, hgiven, rfl⟩
      cases hsaid with
      | @cons _ part _ said hsaying hsaid =>
      cases part with
      | none =>
        exact ⟨p, .inl ⟨hsaying, rfl⟩, said.reduceOption, ⟨said, hsaid, rfl, hnodup⟩, hgiven, rfl⟩
      | some part =>
        obtain ⟨name, u⟩ := part
        obtain ⟨hnew, hgiven⟩ := List.forall_mem_cons.mp hgiven
        obtain ⟨hname, hnodup⟩ := List.nodup_cons.mp hnodup
        refine ⟨_, .inr ⟨name, u, hsaying, hnew, rfl⟩, said.reduceOption, ⟨said, hsaid, rfl, hnodup⟩,
          fun part hpart hmem => ?_, ?_⟩
        · rcases List.mem_cons.mp hmem with heq | hmem
          · exact hname (List.mem_map.mpr ⟨part, hpart, heq⟩)
          · exact hgiven part hpart hmem
        · simp [applied, List.reduceOption_cons_of_some]

/-- **A document that is an object is read as the record that its members tell.** -/
theorem Orderless.run_iff (h : shape.Orderless) (hms : Members ms) {text : String}
    (htext : ObjectText ms text.toList) {a : α} :
    Reader.run shape.decoder.reader text = .ok a ↔
      ∃ parts, shape.Told ms parts ∧ applied parts shape.blank = a := by
  rw [shape.readsObjects.run_iff (RecordShape.lawful h.lawful) hms htext]
  simp only [reads_iff]
  constructor
  · rintro ⟨q, ⟨parts, htold, -, rfl⟩, hfinish⟩
    exact ⟨parts, htold, Except.ok.inj hfinish⟩
  · rintro ⟨parts, htold, rfl⟩
    exact ⟨_, ⟨parts, htold, fun _ _ => List.not_mem_nil, rfl⟩, rfl⟩

end RecordShape

end Saying

end SoundEngine.Json

namespace SoundEngine.Command

open Json Reader RecordShape

/-! ## 3. Commands as records -/

section Tagged

variable {ρ : Type} {kind : Kind} {name : String} {shape : RecordShape ρ} {command : ρ → Command}
variable {s t m : List Char} {ms : List (List Char)} {key : String}

/-- The kind of a command as a field, which has one value and changes nothing. -/
def kindField (name : String) : Json.Field ρ := ⟨kindKey, [], .variant [(name, id)]⟩

/-- The record that a command of a kind is read as. -/
def tagged (name : String) (shape : RecordShape ρ) : RecordShape ρ :=
  { shape with fields := kindField name :: shape.fields }

/-- The objects that are commands of the kind `kind` hold a request of the shape `shape`. -/
structure Bears (kind : Kind) (name : String) (shape : RecordShape ρ) (command : ρ → Command) :
    Prop where
  named : ∀ s, kinds.lookup s = some kind ↔ s = name
  take_iff : ∀ kind' members r, take kind' (.object members) = .ok (command r) ↔
    kind' = kind ∧ shape.takeMembers members = .ok r
  shallow : shape.Shallow
  apart : shape.fields.Pairwise Field.Apart
  noKind : shape.field? kindKey = none

theorem field?_kindKey : (tagged name shape).field? kindKey = some (kindField name) :=
  List.find?_cons_of_pos (by simp [kindField, Field.answers])

theorem field?_of_ne (hkey : key ≠ kindKey) : (tagged name shape).field? key = shape.field? key := by
  refine List.find?_cons_of_neg ?_
  simpa [kindField, Field.answers] using hkey.symm

theorem variant_reader {β : Type} {names : List (String × β)} {b : β} (depth : Nat) :
    (Decoder.variant names).reader s = .ok (b, t) ↔
      ∃ x, value depth s = .ok (.text x, t) ∧ names.lookup x = some b := by
  rw [(Decoder.shallow_variant names).reader_eq_ok depth]
  constructor
  · rintro ⟨v, hv, htake⟩
    cases v with
    | text x =>
      refine ⟨x, hv, ?_⟩
      unfold Decoder.variant Decoder.scalar at htake
      dsimp only [Value.head] at htake
      split at htake
      · next hlookup =>
        cases htake
        exact hlookup
      · cases htake
    | _ => cases htake
  · rintro ⟨x, hv, hlookup⟩
    refine ⟨.text x, hv, ?_⟩
    unfold Decoder.variant Decoder.scalar
    dsimp only [Value.head]
    rw [hlookup]

theorem kindField_reader {u : ρ → ρ} (depth : Nat) :
    (kindField name : Json.Field ρ).update.reader s = .ok (u, t) ↔
      value depth s = .ok (.text name, t) ∧ u = id := by
  change (Decoder.variant [(name, (id : ρ → ρ))]).reader s = _ ↔ _
  rw [variant_reader depth]
  constructor
  · rintro ⟨x, hv, hlookup⟩
    by_cases hx : x = name
    · subst hx
      simp only [List.lookup_cons_self, Option.some.injEq] at hlookup
      exact ⟨hv, hlookup.symm⟩
    · have hx' : (x == name) = false := by simpa using hx
      simp [List.lookup, hx'] at hlookup
  · rintro ⟨hv, rfl⟩
    exact ⟨name, hv, List.lookup_cons_self⟩

namespace Bears

variable (hb : Bears kind name shape command)

include hb

theorem name_ne {f : Json.Field ρ} (hf : f ∈ shape.fields) : f.name ≠ kindKey := by
  intro hname
  have hnone := List.find?_eq_none.mp hb.noKind f hf
  simp [Field.answers, hname] at hnone

theorem kindDecoder_reader (depth : Nat) :
    kindDecoder.reader s = .ok (kind, t) ↔ value depth s = .ok (.text name, t) := by
  unfold kindDecoder
  rw [variant_reader depth]
  simp only [hb.named, exists_eq_right]

theorem orderless : (tagged name shape).Orderless where
  lawful := by
    refine List.forall_mem_cons.mpr ⟨(Decoder.shallow_variant _).lawful, ?_⟩
    exact fun f hf => (hb.shallow f hf).lawful
  apart := by
    refine List.pairwise_cons.mpr ⟨fun f hf => ⟨(hb.name_ne hf).symm, fun u v hu _ a => ?_⟩, hb.apart⟩
    obtain ⟨s, t, hu⟩ := hu
    obtain ⟨-, rfl⟩ := (kindField_reader 0).mp hu
    rfl

end Bears

/-- What a command has kept, and what the record has been told.  The command keeps the members and looks
into them only when its kind is known; this is the invariant of reading both side by side: what is kept
so far would make of a blank record what the record now is. -/
structure Shows (kind : Kind) (shape : RecordShape ρ) (g : Gathered) (p : Partial ρ) : Prop where
  taken : ∃ q, g.members.reverse.foldlM shape.takeMember ⟨[], shape.blank⟩ = .ok q ∧
    q.record = p.record ∧ ∀ n, n ≠ kindKey → (n ∈ q.given ↔ n ∈ p.given)
  told : kindKey ∈ p.given ↔ g.kind = some kind
  alone : g.kind = none ∨ g.kind = some kind

theorem Shows.start : Shows kind shape {} ⟨[], shape.blank⟩ where
  taken := ⟨⟨[], shape.blank⟩, rfl, rfl, fun _ _ => Iff.rfl⟩
  told := by simp
  alone := .inl rfl

variable {g g' : Gathered} {p p' : Partial ρ}

/-- The kind comes. -/
theorem Shows.tag (h : Shows kind shape g p) :
    Shows kind shape { g with kind := some kind } ⟨kindKey :: p.given, p.record⟩ where
  taken := by
    obtain ⟨q, hq, hrecord, hgiven⟩ := h.taken
    exact ⟨q, hq, hrecord, fun n hn => (hgiven n hn).trans (List.mem_cons.trans (or_iff_right hn)).symm⟩
  told := by simp
  alone := .inr rfl

/-- A member that is no field of the request comes. -/
theorem Shows.unknown (h : Shows kind shape g p) (hfield : shape.field? key = none) (v : Value) :
    Shows kind shape { g with members := (key, v) :: g.members } p where
  taken := by
    obtain ⟨q, hq, hrecord, hgiven⟩ := h.taken
    refine ⟨q, ?_, hrecord, hgiven⟩
    rw [List.reverse_cons, List.foldlM_append]
    refine except_bind_eq_ok.mpr ⟨q, hq, except_bind_eq_ok.mpr ⟨q, ?_, rfl⟩⟩
    exact (takeMember_none hfield).mpr rfl
  told := h.told
  alone := h.alone

/-- A field of the request comes. -/
theorem Shows.field (h : Shows kind shape g p) {f : Json.Field ρ} (hf : f.name ≠ kindKey)
    (hfield : shape.field? key = some f) {v : Value} {u : ρ → ρ} (htake : f.update.take v = .ok u)
    (hnew : f.name ∉ p.given) :
    Shows kind shape { g with members := (key, v) :: g.members }
      ⟨f.name :: p.given, u p.record⟩ where
  taken := by
    obtain ⟨q, hq, hrecord, hgiven⟩ := h.taken
    have hcheck : q.check f = .ok () := check_eq_ok.mpr (mt (hgiven f.name hf).mp hnew)
    refine ⟨q.put f u, ?_, congrArg u hrecord, fun n hn => ?_⟩
    · rw [List.reverse_cons, List.foldlM_append]
      refine except_bind_eq_ok.mpr ⟨q, hq, except_bind_eq_ok.mpr ⟨q.put f u, ?_, rfl⟩⟩
      exact (takeMember_some hfield).mpr ⟨hcheck, u, htake, rfl⟩
    · simp only [Partial.put, List.mem_cons, hgiven n hn]
  told := by
    rw [List.mem_cons, or_iff_right hf.symm]
    exact h.told
  alone := h.alone

/-- What a command has got can be completed to a command of the kind. -/
def Completes (kind : Kind) (shape : RecordShape ρ) (g : Gathered) : Prop :=
  (∀ k, g.kind = some k → k = kind) ∧
    ∃ q, g.members.reverse.foldlM shape.takeMember ⟨[], shape.blank⟩ = .ok q

/-- What comes later does not undo what has come before. -/
theorem Completes.before (h : Completes kind shape g') (hread : objectReader.Reads ms g g') :
    Completes kind shape g := by
  induction hread with
  | nil => exact h
  | @cons m ms g b g' hm _ ih =>
  obtain ⟨hkind, q, hq⟩ := ih h
  obtain ⟨key, v, -, w, -, hbody⟩ := ObjectReader.whole_member.mp hm
  by_cases hkey : key = kindKey
  · subst hkey
    obtain ⟨hnone, u, -, k, -, rfl⟩ := body_kind.mp hbody
    exact ⟨by simp [hnone], q, hq⟩
  · obtain ⟨u, -, x, -, rfl⟩ := (body_other hkey).mp hbody
    rw [List.reverse_cons, List.foldlM_append] at hq
    obtain ⟨q', hq', -⟩ := except_bind_eq_ok.mp hq
    exact ⟨hkind, q', hq'⟩

namespace Bears

variable (hb : Bears kind name shape command)

include hb

/-- A member of a command is a member of the record. -/
theorem member_tagged (h : Shows kind shape g p) (hg' : Completes kind shape g')
    (hread : Whole (objectReader.member g) m g') :
    (∃ key, IsKept key m) ∧ ∃ p', Whole ((tagged name shape).objectReader.member p) m p' ∧
      Shows kind shape g' p' := by
  obtain ⟨hkind, q', hq'⟩ := hg'
  obtain ⟨key, v, hkeyed, w, hw, hbody⟩ := ObjectReader.whole_member.mp hread
  simp only [RecordShape.whole_member]
  -- the kind is one more field of the tagged request; the others are those of the request
  by_cases hkey : key = kindKey
  · subst hkey
    obtain ⟨hnone, u, hcolon, k, hk, rfl⟩ := body_kind.mp hbody
    obtain rfl := hkind k rfl
    have hvalue := (hb.kindDecoder_reader innerDepth).mp hk
    have hsaying : (tagged name shape).Says m (some (kindKey, id)) :=
      .update hkeyed field?_kindKey
        ⟨w, hw, bind_eq_ok.mpr ⟨(), u, hcolon, (kindField_reader innerDepth).mpr ⟨hvalue, rfl⟩⟩⟩
    have hnew : kindKey ∉ p.given := by
      rw [h.told, hnone]
      simp
    exact ⟨⟨kindKey, v, hkeyed, _, w, hw, bind_eq_ok.mpr ⟨(), u, hcolon, hvalue⟩⟩,
      _, .inr ⟨kindKey, id, hsaying, hnew, rfl⟩, h.tag⟩
  · obtain ⟨u, hcolon, x, hx, rfl⟩ := (body_other hkey).mp hbody
    have hvalue : Whole (do colon; value innerDepth) v x := ⟨w, hw, bind_eq_ok.mpr ⟨(), u, hcolon, hx⟩⟩
    refine ⟨⟨key, v, hkeyed, x, hvalue⟩, ?_⟩
    cases hfield : shape.field? key with
    | none =>
      have hsaying : (tagged name shape).Says m none :=
        .nothing hkeyed ((field?_of_ne hkey).trans hfield) (skip_of_kept hvalue)
      exact ⟨p, .inl ⟨hsaying, rfl⟩, h.unknown hfield x⟩
    | some f =>
      have hf := mem_of_field? hfield
      rw [List.reverse_cons, List.foldlM_append] at hq'
      obtain ⟨q, hq, hlast⟩ := except_bind_eq_ok.mp hq'
      obtain ⟨_, htaken, -⟩ := except_bind_eq_ok.mp hlast
      obtain ⟨hcheck, update, htake, -⟩ := (takeMember_some hfield).mp htaken
      have hread := ((hb.shallow f hf).reader_eq_ok innerDepth).mpr ⟨x, hx, htake⟩
      have hsaying : (tagged name shape).Says m (some (f.name, update)) :=
        .update hkeyed ((field?_of_ne hkey).trans hfield)
          ⟨w, hw, bind_eq_ok.mpr ⟨(), u, hcolon, hread⟩⟩
      obtain ⟨q₀, hq₀, -, hgiven⟩ := h.taken
      rw [hq₀] at hq
      cases hq
      have hnew : f.name ∉ p.given :=
        mt (hgiven f.name (hb.name_ne hf)).mpr (check_eq_ok.mp hcheck)
      exact ⟨_, .inr ⟨f.name, update, hsaying, hnew, rfl⟩, h.field (hb.name_ne hf) hfield htake hnew⟩

/-- A member of the record that can be kept is a member of the command. -/
theorem member_untagged (h : Shows kind shape g p) (hkept : ∃ key, IsKept key m)
    (hread : Whole ((tagged name shape).objectReader.member p) m p') :
    ∃ g', Whole (objectReader.member g) m g' ∧ Shows kind shape g' p' := by
  obtain ⟨key, v, hkeyed, x, w, hw, hvalue⟩ := hkept
  obtain ⟨_, u, hcolon, hx⟩ := bind_eq_ok.mp hvalue
  -- the readers are at the same key
  have hsame : ∀ {key' v'}, Keyed key' m v' → key = key' ∧ v = v' := hkeyed.unique
  simp only [ObjectReader.whole_member]
  rcases RecordShape.whole_member.mp hread with ⟨hsaying, rfl⟩ | ⟨n, update, hsaying, hnew, rfl⟩
  · cases hsaying with
    | nothing hkeyed' hfield hskip =>
    obtain ⟨rfl, rfl⟩ := hsame hkeyed'
    have hkey : key ≠ kindKey := by
      rintro rfl
      rw [field?_kindKey] at hfield
      cases hfield
    rw [field?_of_ne hkey] at hfield
    exact ⟨_, ⟨key, v, hkeyed, w, hw, (body_other hkey).mpr ⟨u, hcolon, x, hx, rfl⟩⟩,
      h.unknown hfield x⟩
  · cases hsaying with
    | @update key' v' f _ hkeyed' hfield hread =>
    obtain ⟨rfl, rfl⟩ := hsame hkeyed'
    obtain ⟨w', hw', hread⟩ := hread
    obtain ⟨_, u', hcolon', hread⟩ := bind_eq_ok.mp hread
    rw [hcolon] at hcolon'
    cases hcolon'
    by_cases hkey : key = kindKey
    · subst hkey
      rw [field?_kindKey] at hfield
      cases hfield
      obtain ⟨hvalue, rfl⟩ := (kindField_reader innerDepth).mp hread
      have hnone : g.kind = none := h.alone.resolve_right (mt h.told.mpr hnew)
      exact ⟨_, ⟨kindKey, v, hkeyed, w', hw', body_kind.mpr ⟨hnone, u, hcolon, kind,
        (hb.kindDecoder_reader innerDepth).mpr hvalue, rfl⟩⟩, h.tag⟩
    · rw [field?_of_ne hkey] at hfield
      have hf := mem_of_field? hfield
      obtain ⟨y, hy, htake⟩ := ((hb.shallow f hf).reader_eq_ok innerDepth).mp hread
      exact ⟨_, ⟨key, v, hkeyed, w', hw', (body_other hkey).mpr ⟨u, hcolon, y, hy, rfl⟩⟩,
        h.field (hb.name_ne hf) hfield htake hnew⟩

theorem reads_tagged (h : Shows kind shape g p) (hg' : Completes kind shape g')
    (hread : objectReader.Reads ms g g') :
    (∀ m ∈ ms, ∃ key, IsKept key m) ∧ ∃ p', (tagged name shape).objectReader.Reads ms p p' ∧
      Shows kind shape g' p' := by
  induction hread generalizing p with
  | nil => exact ⟨by simp, p, .nil p, h⟩
  | cons hm hs ih =>
    obtain ⟨hkept, p₁, hm', h₁⟩ := hb.member_tagged h (hg'.before hs) hm
    obtain ⟨hkept', p', hs', h'⟩ := ih h₁ hg'
    exact ⟨List.forall_mem_cons.mpr ⟨hkept, hkept'⟩, p', .cons hm' hs', h'⟩

theorem reads_untagged (h : Shows kind shape g p) (hkept : ∀ m ∈ ms, ∃ key, IsKept key m)
    (hread : (tagged name shape).objectReader.Reads ms p p') :
    ∃ g', objectReader.Reads ms g g' ∧ Shows kind shape g' p' := by
  induction hread generalizing g with
  | nil => exact ⟨g, .nil g, h⟩
  | cons hm hs ih =>
    obtain ⟨hkeptm, hkepts⟩ := List.forall_mem_cons.mp hkept
    obtain ⟨g₁, hm', h₁⟩ := hb.member_untagged h hkeptm hm
    obtain ⟨g', hs', h'⟩ := ih h₁ hkepts
    exact ⟨g', .cons hm' hs', h'⟩

/-- What a command comes to is what the record has come to. -/
theorem command_iff (h : Shows kind shape g p) {r : ρ} :
    g.command = .ok (command r) ↔ kindKey ∈ p.given ∧ p.record = r := by
  obtain ⟨q, hq, hrecord, -⟩ := h.taken
  rw [gathered_eq_ok, h.told]
  simp only [hb.take_iff, takeMembers_eq_ok, hq]
  constructor
  · rintro ⟨k, hk, rfl, q', hq', rfl⟩
    cases hq'
    exact ⟨hk, hrecord.symm⟩
  · rintro ⟨hk, rfl⟩
    exact ⟨kind, hk, rfl, q, rfl, hrecord⟩

/-- **An object is a command of the kind if it is the record that its members tell**, the kind is told,
and every value can be kept. -/
theorem run_iff (hms : Members ms) {text : String} (htext : ObjectText ms text.toList) {r : ρ} :
    ofText text = .ok (command r) ↔ (∀ m ∈ ms, ∃ key, IsKept key m) ∧
      ∃ parts, (tagged name shape).Told ms parts ∧ kindKey ∈ parts.map Prod.fst ∧
        applied parts shape.blank = r := by
  change Reader.run reader text = _ ↔ _
  rw [readsObjects.run_iff lawful_objectReader hms htext]
  constructor
  · rintro ⟨g, hread, hg⟩
    have hcompletes : Completes kind shape g := by
      obtain ⟨k, hk, htake⟩ := gathered_eq_ok.mp hg
      obtain ⟨rfl, hmembers⟩ := (hb.take_iff _ _ _).mp htake
      obtain ⟨q, hq, -⟩ := takeMembers_eq_ok.mp hmembers
      refine ⟨fun k' hk' => ?_, q, hq⟩
      rw [hk] at hk'
      exact (Option.some.inj hk').symm
    obtain ⟨hkept, p, hread', h⟩ := hb.reads_tagged .start hcompletes hread
    obtain ⟨parts, htold, -, rfl⟩ := RecordShape.reads_iff.mp hread'
    obtain ⟨hkind, rfl⟩ := (hb.command_iff h).mp hg
    exact ⟨hkept, parts, htold, by simpa using hkind, rfl⟩
  · rintro ⟨hkept, parts, htold, hkind, rfl⟩
    have hread : (tagged name shape).objectReader.Reads ms ⟨[], shape.blank⟩ _ :=
      RecordShape.reads_iff.mpr ⟨parts, htold, fun _ _ => List.not_mem_nil, rfl⟩
    obtain ⟨g, hread', h⟩ := hb.reads_untagged .start hkept hread
    exact ⟨g, hread', (hb.command_iff h).mpr ⟨by simpa using hkind, rfl⟩⟩

end Bears

end Tagged

end SoundEngine.Command
