import SoundEngine.Proofs.RoundTrip
import SoundEngine.Proofs.Tolerance

/-!
# Lists and objects read alike

A record is read from an object, whose members name its fields, or from a list, whose items are the fields
in their order.  The two ways have nothing in common but the fields themselves: items are counted, members
are looked up; a list may stop early, an object may leave anything out; and a member is checked for having
come before.  So that they agree has to be shown for every text a value can have, those included that no
field can be read from.

Both come to the same (`Parts`): the updates that the values make, the first value for the first field.

* §1 has the texts of values, and what values make of fields in their order.
* §2 reads lists, and §3 reads objects.
* §4 has the four documents (`positions_agree`).
-/

namespace SoundEngine.Json

open Reader RecordShape

variable {α β : Type}

/-! ## 1. Values -/

section Values

variable {s t u v w rest : List Char} {vs : List (List Char)} {f : Field α} {fs : List (Field α)}
variable {parts : List (String × (α → α))}

/-- The text of one value, which may have blanks around it.  It need not be one that any field takes. -/
def IsValue (v : List Char) : Prop := Whole skip v ()

/-- A value does not begin like the end of a list. -/
theorem IsValue.begins (h : IsValue v) (rest : List Char) :
    ∃ c s, trimmed (v ++ rest) = c :: s ∧ c ≠ ']' := by
  obtain ⟨w, -, hskip⟩ := h
  obtain ⟨depth, hpass⟩ := skip_eq_ok.mp hskip
  cases depth with
  | zero => cases hpass
  | succ depth =>
    unfold passWithin at hpass
    cases htrim : trimmed v with
    | nil => simp [htrim] at hpass
    | cons c s =>
      obtain ⟨hblank, lead, hlead, rfl⟩ := trimmed_eq_cons htrim
      refine ⟨c, s ++ rest, ?_, ?_⟩
      · rw [List.append_assoc, trimmed_append hlead]
        exact trimmed_cons hblank _
      · rintro rfl
        simp [htrim, show ']'.isDigit = false from rfl] at hpass

/-- **A value is read from its own text**, whatever comes after it. -/
theorem Decoder.Lawful.reader_append {d : Decoder β} (hd : d.Lawful) (hv : IsValue v)
    (hrest : Alike [] rest) {b : β} :
    d.reader (v ++ rest) = .ok (b, u) ↔
      ∃ w, Blank w ∧ u = w ++ rest ∧ d.reader v = .ok (b, w) := by
  constructor
  · intro h
    obtain ⟨w, hw, hskip⟩ := hv
    have hskip' := hd.skips _ b u h
    -- whoever reads the value stops where it ends
    rw [whole_append takes_skip hskip hrest] at hskip'
    cases hskip'
    exact ⟨w, hw, rfl, whole_of_append hd.takes h⟩
  · rintro ⟨w, -, rfl, h⟩
    exact whole_append hd.takes h hrest

theorem Decoder.trims_reader (d : Decoder β) : Trims d.reader :=
  Trims.bind (fun s => by unfold head; rw [trimmed_trimmed]) d.read

/-- The updates that values make, the first value for the first field. -/
inductive Parts : List (Field α) → List (List Char) → List (String × (α → α)) → Prop
  | nil (fs : List (Field α)) : Parts fs [] []
  | cons {f : Field α} {fs : List (Field α)} {v : List Char} {vs : List (List Char)} {u : α → α}
    {parts : List (String × (α → α))} (h : Whole f.update.reader v u) (hs : Parts fs vs parts) :
    Parts (f :: fs) (v :: vs) ((f.name, u) :: parts)

theorem parts_nil : Parts fs [] parts ↔ parts = [] := by
  constructor
  · intro h
    cases h
    rfl
  · rintro rfl
    exact .nil fs

theorem parts_cons : Parts (f :: fs) (v :: vs) parts ↔
    ∃ u rest, Whole f.update.reader v u ∧ Parts fs vs rest ∧ parts = (f.name, u) :: rest := by
  constructor
  · intro h
    cases h with
    | cons h hs => exact ⟨_, _, h, hs, rfl⟩
  · rintro ⟨u, rest, h, hs, rfl⟩
    exact .cons h hs

theorem Parts.mem_names (h : Parts fs vs parts) {name : String} (hname : name ∈ parts.map Prod.fst) :
    ∃ f ∈ fs, f.name = name := by
  induction h with
  | nil => cases hname
  | cons _ _ ih =>
    rcases List.mem_cons.mp hname with rfl | hname
    · exact ⟨_, List.mem_cons_self, rfl⟩
    · obtain ⟨f, hf, rfl⟩ := ih hname
      exact ⟨f, List.mem_cons_of_mem _ hf, rfl⟩

/-- **What no value was given for stays as it is.** -/
theorem Parts.kept {γ : Type} (h : Parts fs vs parts) (get : α → γ) {k : Nat} (hk : vs.length ≤ k)
    (hget : ∀ f ∈ fs.take k, ∀ u, f.Makes u → ∀ a, get (u a) = get a) (a : α) :
    get (applied parts a) = get a := by
  induction h generalizing a k with
  | nil => rfl
  | @cons f fs v vs u parts hread hs ih =>
    obtain ⟨k, rfl⟩ : ∃ j, k = j + 1 := ⟨k - 1, by simp only [List.length_cons] at hk; omega⟩
    obtain ⟨w, -, hmakes⟩ := hread
    obtain ⟨hfirst, hlater⟩ := List.forall_mem_cons.mp hget
    calc get (applied parts (u a))
        = get (u a) := ih (by simpa using hk) hlater (u a)
      _ = get a := hfirst u ⟨v, w, hmakes⟩ a

end Values

/-! ## 2. Lists -/

section Lists

variable {s t u v w rest : List Char} {vs : List (List Char)} {f : Field α} {fs : List (Field α)}
variable {shape : RecordShape α} {a r : α} {first : Bool}

/-- The text is the list of the values. -/
def ListText (vs : List (List Char)) (s : List Char) : Prop :=
  ∃ lead w trail, Blank lead ∧ Blank w ∧ Blank trail ∧
    s = lead ++ '[' :: (w ++ (writeMembers vs ++ ']' :: trail))

theorem alike_items (vs : List (List Char)) (t : List Char) :
    Alike [] (followers vs ++ ']' :: t) := by
  cases vs with
  | nil => exact alike_cons [] (by decide) t
  | cons v vs => exact alike_cons [] (by decide) _

theorem trims_nextItem (first : Bool) : Trims (nextItem first) := fun s => by
  unfold nextItem
  rw [trimmed_trimmed]

theorem nextItem_value (hv : IsValue v) (rest : List Char) :
    nextItem true (v ++ rest) = .ok (true, trimmed (v ++ rest)) := by
  obtain ⟨c, s, htrim, hc⟩ := hv.begins rest
  exact nextItem_first.mpr ⟨rfl, c, s, htrim, hc⟩

/-- After an item, there is another one if there is one in the list of the others. -/
theorem nextItem_followers (hvs : ∀ v ∈ vs, IsValue v) (hw : Blank w) (t : List Char) :
    nextItem false (w ++ (followers vs ++ ']' :: t)) = nextItem true (writeMembers vs ++ ']' :: t) := by
  cases vs with
  | nil =>
    have hclosed : trimmed (']' :: t) = ']' :: t := trimmed_cons (by decide) t
    exact (nextItem_no.mpr ((trimmed_append hw _).trans hclosed)).trans (nextItem_no.mpr hclosed).symm
  | cons v vs =>
    have hvalue := nextItem_value (List.forall_mem_cons.mp hvs).1 (followers vs ++ ']' :: t)
    rw [writeMembers_cons, List.append_assoc, hvalue]
    refine nextItem_next.mpr ⟨v ++ (followers vs ++ ']' :: t), ?_, hvalue⟩
    rw [trimmed_append hw]
    simpa [followers] using @trimmed_cons ',' (by decide) _

/-- **A record takes the items for its fields**, and refuses a list that is too long.  The induction is on
the items; what is left to read is a list that begins with them or goes on with them. -/
theorem readItems_items (hfs : ∀ f ∈ fs, f.update.Lawful) (hvs : ∀ v ∈ vs, IsValue v)
    (hnext : nextItem first s = nextItem true (writeMembers vs ++ ']' :: t)) :
    readItems fs first a s = .ok (r, u) ↔ u = t ∧ ∃ parts, Parts fs vs parts ∧ applied parts a = r := by
  induction vs generalizing fs a first s with
  | nil =>
    have hend : nextItem first s = .ok (false, t) :=
      hnext.trans (nextItem_no.mpr (trimmed_cons (by decide) t))
    simp only [parts_nil, exists_eq_left]
    cases fs with
    | nil =>
      rw [Command.readItems_nil, nextItem_no.mp hend, List.cons.injEq]
      simp [applied, eq_comm]
    | cons f fs =>
      rw [Command.readItems_cons, hend]
      simp [applied, eq_comm]
  | cons v vs ih =>
    obtain ⟨hv, hvs⟩ := List.forall_mem_cons.mp hvs
    rw [writeMembers_cons, List.append_assoc, nextItem_value hv] at hnext
    cases fs with
    | nil =>
      rw [Command.readItems_nil, ← @nextItem_no first, hnext]
      constructor
      · rintro ⟨h, -⟩
        cases h
      · rintro ⟨-, parts, h, -⟩
        cases h
    | cons f fs =>
      obtain ⟨hf, hfs⟩ := List.forall_mem_cons.mp hfs
      rw [Command.readItems_cons, hnext]
      constructor
      · rintro (⟨h, -⟩ | ⟨_, h, update, x, hread, hitems⟩)
        · cases h
        · cases h
          rw [f.update.trims_reader] at hread
          obtain ⟨w, hw, rfl, hvalue⟩ := (hf.reader_append hv (alike_items vs t)).mp hread
          obtain ⟨rfl, parts, hparts, rfl⟩ := (ih hfs hvs (nextItem_followers hvs hw t)).mp hitems
          exact ⟨rfl, _, .cons ⟨w, hw, hvalue⟩ hparts, rfl⟩
      · rintro ⟨rfl, parts, hparts, rfl⟩
        obtain ⟨update, rest, ⟨w, hw, hvalue⟩, hlater, rfl⟩ := parts_cons.mp hparts
        refine .inr ⟨_, rfl, update, _, ?_,
          (ih hfs hvs (nextItem_followers hvs hw u)).mpr ⟨rfl, rest, hlater, rfl⟩⟩
        rw [f.update.trims_reader]
        exact (hf.reader_append hv (alike_items vs u)).mpr ⟨w, hw, rfl, hvalue⟩

/-- Who ignores a list ignores its items one after another. -/
theorem pass_items {depth : Nat} (hvs : ∀ v ∈ vs, IsValue v)
    (hpass : ∀ v ∈ vs, Whole (passWithin depth) v ())
    (hnext : nextItem first s = nextItem true (writeMembers vs ++ ']' :: t)) :
    loop (passItemStep (passWithin depth)) first s = .ok ((), t) := by
  have hturns := takes_passItemStep (takes_passWithin depth)
  induction vs generalizing first s with
  | nil =>
    have hend := hnext.trans (nextItem_no.mpr (trimmed_cons (by decide) t))
    exact (loop_eq_ok hturns).mpr (.inr (passItemStep_of_end hend))
  | cons v vs ih =>
    obtain ⟨hv, hvs⟩ := List.forall_mem_cons.mp hvs
    obtain ⟨⟨w, hw, hread⟩, hlater⟩ := List.forall_mem_cons.mp hpass
    rw [writeMembers_cons, List.append_assoc, nextItem_value hv] at hnext
    have hitem := ((trims_passWithin depth) _).trans
      (whole_append (takes_passWithin depth) hread (alike_items vs t))
    exact (loop_eq_ok hturns).mpr (.inl ⟨false, _,
      passItemStep_of_nextItem (trims_passWithin depth) hnext hitem,
      ih hvs hlater (nextItem_followers hvs hw t)⟩)

/-- **A document that is a list is read as the record that its items make.** -/
theorem run_of_listText (hshape : shape.Orderless) (hvs : ∀ v ∈ vs, IsValue v) {text : String}
    (htext : ListText vs text.toList) :
    Reader.run shape.decoder.reader text = .ok a ↔
      ∃ parts, Parts shape.fields vs parts ∧ applied parts shape.blank = a := by
  obtain ⟨lead, w, trail, hlead, hw, htrail, htext⟩ := htext
  have htrim : trimmed text.toList = '[' :: (w ++ (writeMembers vs ++ ']' :: trail)) := by
    rw [htext, trimmed_append hlead]
    exact trimmed_cons (by decide) _
  have hreader : shape.decoder.reader text.toList =
      readItems shape.fields true shape.blank (w ++ (writeMembers vs ++ ']' :: trail)) :=
    bind_apply (head_of_list htrim)
  have hnext := (trims_nextItem true).blank hw (writeMembers vs ++ ']' :: trail)
  simp only [run_eq_ok, hreader, readItems_items hshape.lawful hvs hnext]
  constructor
  · rintro ⟨t, ⟨rfl, hparts⟩, -⟩
    exact hparts
  · intro hparts
    exact ⟨trail, ⟨rfl, hparts⟩, trimmed_eq_nil_iff.mpr htrail⟩

/-- A list of values is a value. -/
theorem IsValue.of_listText (hvs : ∀ v ∈ vs, IsValue v) (h : ListText vs s) : IsValue s := by
  obtain ⟨lead, w, trail, hlead, hw, htrail, rfl⟩ := h
  have hpass : ∀ v ∈ vs, Whole (passWithin (vs.flatten.length + 1)) v () := by
    intro v hv
    obtain ⟨t, ht, hskip⟩ := hvs v hv
    exact ⟨t, ht, passWithin_enough hskip
      (Nat.lt_succ_of_le (List.sublist_flatten_of_mem hv).length_le)⟩
  have hnext := (trims_nextItem true).blank hw (writeMembers vs ++ ']' :: trail)
  refine ⟨trail, htrail, skip_eq_ok.mpr ⟨vs.flatten.length + 1 + 1, ?_⟩⟩
  unfold passWithin
  rw [trimmed_append hlead, trimmed_cons (by decide)]
  simpa using pass_items hvs hpass hnext

end Lists

/-! ## 3. Objects -/

section Objects

variable {s t u v w m : List Char} {vs ms : List (List Char)} {f : Field α} {fs : List (Field α)}
variable {shape : RecordShape α} {a r : α} {parts : List (String × (α → α))}

/-- The member gives the field, under whichever of its names, this value. -/
def Gives (shape : RecordShape α) (f : Field α) (v m : List Char) : Prop :=
  ∃ key w, Keyed key m w ∧ shape.field? key = some f ∧ colon w = .ok ((), v)

/-- The members give the first fields the values, in their order. -/
inductive Named (shape : RecordShape α) :
    List (Field α) → List (List Char) → List (List Char) → Prop
  | nil (fs : List (Field α)) : Named shape fs [] []
  | cons {f : Field α} {fs : List (Field α)} {v m : List Char} {vs ms : List (List Char)}
    (h : Gives shape f v m) (hs : Named shape fs vs ms) : Named shape (f :: fs) (v :: vs) (m :: ms)

/-- The text is the object that gives the first fields the values. -/
def FieldsText (shape : RecordShape α) (vs : List (List Char)) (s : List Char) : Prop :=
  ∃ ms, Named shape shape.fields vs ms ∧ ObjectText ms s

theorem Gives.isMember (h : Gives shape f v m) (hv : IsValue v) : ∃ key, IsMember key m := by
  obtain ⟨key, w, hkey, -, hcolon⟩ := h
  obtain ⟨t, ht, hskip⟩ := hv
  exact ⟨key, isMember_iff_keyed.mpr ⟨w, hkey, t, ht, bind_eq_ok.mpr ⟨(), v, hcolon, hskip⟩⟩⟩

theorem Named.members (h : Named shape fs vs ms) (hvs : ∀ v ∈ vs, IsValue v) : Members ms := by
  induction h with
  | nil => exact List.forall_mem_nil _
  | cons hm _ ih =>
    obtain ⟨hv, hvs⟩ := List.forall_mem_cons.mp hvs
    exact List.forall_mem_cons.mpr ⟨hm.isMember hv, ih hvs⟩

/-- A member that gives a field a value says what the field makes of it. -/
theorem Gives.says_iff (h : Gives shape f v m) {part : Option (String × (α → α))} :
    shape.Says m part ↔ ∃ u, part = some (f.name, u) ∧ Whole f.update.reader v u := by
  obtain ⟨key, w, hkey, hfield, hcolon⟩ := h
  constructor
  · intro h
    cases h with
    | nothing hkey' hnone _ =>
      obtain ⟨rfl, -⟩ := hkey.unique hkey'
      rw [hfield] at hnone
      cases hnone
    | update hkey' hsome hread =>
      obtain ⟨rfl, rfl⟩ := hkey.unique hkey'
      rw [hfield] at hsome
      cases hsome
      obtain ⟨t, ht, hread⟩ := hread
      obtain ⟨_, v', hcolon', hvalue⟩ := bind_eq_ok.mp hread
      rw [hcolon] at hcolon'
      cases hcolon'
      exact ⟨_, rfl, t, ht, hvalue⟩
  · rintro ⟨u, rfl, t, ht, hvalue⟩
    exact .update hkey hfield ⟨t, ht, bind_eq_ok.mpr ⟨(), v, hcolon, hvalue⟩⟩

/-- **Members that give the first fields values tell what the values make of these fields.** -/
theorem Named.told_iff (h : Named shape fs vs ms) (hnames : (fs.map Field.name).Nodup) :
    shape.Told ms parts ↔ Parts fs vs parts := by
  induction h generalizing parts with
  | nil =>
    rw [parts_nil]
    constructor
    · rintro ⟨said, hsaid, rfl, -⟩
      cases hsaid
      rfl
    · rintro rfl
      exact ⟨[], .nil, rfl, List.nodup_nil⟩
  | @cons f fs v m vs ms hm hs ih =>
    obtain ⟨hname, hnames⟩ := List.nodup_cons.mp hnames
    rw [told_cons, parts_cons]
    simp only [hm.says_iff, ih hnames]
    constructor
    · rintro (⟨⟨u, hpart, -⟩, -⟩ | ⟨part, rest, ⟨u, hpart, hread⟩, rfl, hparts, -⟩)
      · cases hpart
      · cases hpart
        exact ⟨u, rest, hread, hparts, rfl⟩
    · rintro ⟨u, rest, hread, hparts, rfl⟩
      refine .inr ⟨_, rest, ⟨u, rfl, hread⟩, rfl, hparts, fun hmem => hname ?_⟩
      obtain ⟨g, hg, hgname⟩ := hparts.mem_names hmem
      exact List.mem_map.mpr ⟨g, hg, hgname⟩

theorem RecordShape.Orderless.nodup_names (hshape : shape.Orderless) :
    (shape.fields.map Field.name).Nodup :=
  List.pairwise_map.mpr (hshape.apart.imp And.left)

/-- **A document that is an object is read as the record that its values make.** -/
theorem run_of_fieldsText (hshape : shape.Orderless) (hvs : ∀ v ∈ vs, IsValue v) {text : String}
    (htext : FieldsText shape vs text.toList) :
    Reader.run shape.decoder.reader text = .ok a ↔
      ∃ parts, Parts shape.fields vs parts ∧ applied parts shape.blank = a := by
  obtain ⟨ms, hnamed, htext⟩ := htext
  rw [hshape.run_iff (hnamed.members hvs) htext]
  simp only [hnamed.told_iff hshape.nodup_names]

theorem gives_writeMember {f : Field α} (hfield : shape.field? f.name = some f) (v : List Char) :
    Gives shape f v (writeMember f.name v) := by
  obtain ⟨u, hsign, hkey⟩ := writeMember_key f.name v
  refine ⟨f.name, ':' :: v, ⟨u, hsign, hkey⟩, hfield, ?_⟩
  unfold colon
  rw [trimmed_cons (by decide)]
  rfl

/-- The names of the fields are keys for them. -/
theorem exists_named (hfs : ∀ f ∈ fs, shape.field? f.name = some f) (hlen : vs.length ≤ fs.length) :
    ∃ ms, Named shape fs vs ms := by
  induction vs generalizing fs with
  | nil => exact ⟨[], .nil fs⟩
  | cons v vs ih =>
    cases fs with
    | nil => simp at hlen
    | cons f fs =>
      obtain ⟨hf, hfs⟩ := List.forall_mem_cons.mp hfs
      obtain ⟨ms, hms⟩ := ih hfs (Nat.le_of_succ_le_succ hlen)
      exact ⟨_, .cons (gives_writeMember hf v) hms⟩

/-- The text gives the values in one of the two forms. -/
def Document (shape : RecordShape α) (vs : List (List Char)) (s : List Char) : Prop :=
  ListText vs s ∨ FieldsText shape vs s

theorem run_of_document (hshape : shape.Orderless) (hvs : ∀ v ∈ vs, IsValue v) {text : String}
    (htext : Document shape vs text.toList) :
    Reader.run shape.decoder.reader text = .ok a ↔
      ∃ parts, Parts shape.fields vs parts ∧ applied parts shape.blank = a :=
  htext.elim (run_of_listText hshape hvs) (run_of_fieldsText hshape hvs)

/-- An object of values is a value. -/
theorem IsValue.of_fieldsText (hvs : ∀ v ∈ vs, IsValue v) (h : FieldsText shape vs s) : IsValue s := by
  obtain ⟨ms, hnamed, htext⟩ := h
  have hms := hnamed.members hvs
  -- a record without fields ignores all members
  have hnone : Command.noRequest.Orderless := ⟨List.forall_mem_nil _, .nil⟩
  have htold : Command.noRequest.Told ms [] := by
    clear htext hnamed
    induction ms with
    | nil => exact ⟨[], .nil, rfl, List.nodup_nil⟩
    | cons m ms ih =>
      obtain ⟨⟨key, hm⟩, hms⟩ := List.forall_mem_cons.mp hms
      obtain ⟨v, hkey, hskip⟩ := isMember_iff_keyed.mp hm
      exact told_cons.mpr (.inl ⟨.nothing hkey rfl hskip, ih hms⟩)
  rw [← String.toList_ofList (l := s)] at htext
  have hrun := (hnone.run_iff hms htext).mpr ⟨[], htold, rfl⟩
  obtain ⟨t, ht, hread⟩ := whole_iff_run.mpr hrun
  exact ⟨t, ht, (lawful_decoder hnone.lawful).skips s () t hread⟩

theorem IsValue.of_document (hvs : ∀ v ∈ vs, IsValue v) (h : Document shape vs s) : IsValue s :=
  h.elim (IsValue.of_listText hvs) (IsValue.of_fieldsText hvs)

end Objects

end SoundEngine.Json

namespace SoundEngine

open Json Reader RecordShape

/-! ## 4. The four documents -/

section Documents

variable {α β γ : Type} {shape : RecordShape α}

/-- **The two forms of a document agree.**  `Unset k` says that the fields after the first `k` have their
defaults. -/
structure Positional (read : String → Except Error α) (shape : RecordShape α)
    (Unset : Nat → α → Prop) : Prop where
  /-- The list of some values is read like the object that gives the first fields these values. -/
  alike : ∀ (vs : List (List Char)) (list object : String), (∀ v ∈ vs, IsValue v) →
    ListText vs list.toList → FieldsText shape vs object.toList →
      ∀ a, read list = .ok a ↔ read object = .ok a
  /-- There is such an object for every list that is not too long. -/
  object : ∀ vs : List (List Char), vs.length ≤ shape.fields.length →
    ∃ text : String, FieldsText shape vs text.toList
  /-- What no value is given for has its default. -/
  unset : ∀ (vs : List (List Char)) (text : String) (a : α), (∀ v ∈ vs, IsValue v) →
    Document shape vs text.toList → read text = .ok a → Unset vs.length a

theorem positional_of_orderless (hshape : shape.Orderless)
    (hnames : ∀ f ∈ shape.fields, shape.field? f.name = some f) {Unset : Nat → α → Prop}
    (hunset : ∀ vs parts, Parts shape.fields vs parts → Unset vs.length (applied parts shape.blank)) :
    Positional (Reader.run shape.decoder.reader) shape Unset where
  alike := fun _ _ _ hvs hlist hobject _ =>
    (run_of_listText hshape hvs hlist).trans (run_of_fieldsText hshape hvs hobject).symm
  object := by
    intro vs hlen
    obtain ⟨ms, hms⟩ := exists_named hnames hlen
    exact ⟨_, ms, hms, Command.objectText_ofList ms⟩
  unset := by
    intro vs text a hvs htext h
    obtain ⟨parts, hparts, rfl⟩ := (run_of_document hshape hvs htext).mp h
    exact hunset vs parts hparts

/-- A setter that leaves something as it is. -/
theorem Json.Field.kept_of {d : Decoder β} {name : String} {aliases : List String} {set : α → β → α}
    {get : α → γ} (hset : ∀ a b, get (set a b) = get a) :
    ∀ u, (Field.of name aliases d set).Makes u → ∀ a, get (u a) = get a := by
  intro u hu a
  obtain ⟨b, rfl⟩ := makes_of hu
  exact hset a b

/-- The fields of a request for an effect after the first `k` are not set. -/
structure EffectRequest.Unset (k : Nat) (r : EffectRequest) : Prop where
  name : k ≤ 0 → r.name = ""
  volume : k ≤ 1 → r.volume = none
  pitch : k ≤ 2 → r.pitch = none
  pan : k ≤ 3 → r.pan = none

/-- The fields of a request for music after the first `k` are not set. -/
structure MusicRequest.Unset (k : Nat) (r : MusicRequest) : Prop where
  name : k ≤ 0 → r.name = ""
  looping : k ≤ 1 → r.looping = none

/-- The settings after the first `k` are the standard ones. -/
structure Settings.Unset (k : Nat) (s : Settings) : Prop where
  base : k ≤ 0 → s.base = "./sounds"
  gains : k ≤ 1 → s.gains = ⟨Binary.ofNat 1, Binary.ofRatio false 1 5, Binary.ofNat 1⟩

/-- The gains after the first `k` are the standard ones. -/
structure Gains.Unset (k : Nat) (g : Gains) : Prop where
  effects : k ≤ 0 → g.effects = Binary.ofNat 1
  music : k ≤ 1 → g.music = Binary.ofRatio false 1 5
  ambience : k ≤ 2 → g.ambience = Binary.ofNat 1

end Documents

namespace EffectRequest

theorem unset_of_parts {vs : List (List Char)} {parts : List (String × (EffectRequest → EffectRequest))}
    (h : Parts shape.fields vs parts) : Unset vs.length (applied parts shape.blank) where
  name := fun hk => h.kept name hk (by simp) _
  volume := by
    intro hk
    refine h.kept volume hk ?_ _
    simp only [shape, List.take_succ_cons, List.take_zero, List.forall_mem_cons]
    exact ⟨Field.kept_of fun _ _ => rfl, by simp⟩
  pitch := by
    intro hk
    refine h.kept pitch hk ?_ _
    simp only [shape, List.take_succ_cons, List.take_zero, List.forall_mem_cons]
    exact ⟨Field.kept_of fun _ _ => rfl, Field.kept_of fun _ _ => rfl, by simp⟩
  pan := by
    intro hk
    refine h.kept pan hk ?_ _
    simp only [shape, List.take_succ_cons, List.take_zero, List.forall_mem_cons]
    exact ⟨Field.kept_of fun _ _ => rfl, Field.kept_of fun _ _ => rfl, Field.kept_of fun _ _ => rfl,
      by simp⟩

theorem positional : Positional ofText shape Unset := by
  refine positional_of_orderless orderless_shape ?_ fun vs parts h => unset_of_parts h
  simp only [shape, List.forall_mem_cons, List.not_mem_nil, false_implies, implies_true, and_true]
  exact ⟨rfl, rfl, rfl, rfl⟩

end EffectRequest

namespace MusicRequest

theorem unset_of_parts {vs : List (List Char)} {parts : List (String × (MusicRequest → MusicRequest))}
    (h : Parts shape.fields vs parts) : Unset vs.length (applied parts shape.blank) where
  name := fun hk => h.kept name hk (by simp) _
  looping := by
    intro hk
    refine h.kept looping hk ?_ _
    simp only [shape, List.take_succ_cons, List.take_zero, List.forall_mem_cons]
    exact ⟨Field.kept_of fun _ _ => rfl, by simp⟩

theorem positional : Positional ofText shape Unset := by
  refine positional_of_orderless orderless_shape ?_ fun vs parts h => unset_of_parts h
  simp only [shape, List.forall_mem_cons, List.not_mem_nil, false_implies, implies_true, and_true]
  exact ⟨rfl, rfl⟩

end MusicRequest

namespace Gains

theorem unset_of_parts {vs : List (List Char)} {parts : List (String × (Gains → Gains))}
    (h : Parts shape.fields vs parts) : Unset vs.length (applied parts shape.blank) where
  effects := fun hk => h.kept PerBus.effects hk (by simp) _
  music := by
    intro hk
    refine h.kept PerBus.music hk ?_ _
    simp only [shape, BusKind.all, List.map_cons, List.take_succ_cons, List.take_zero, List.forall_mem_cons]
    exact ⟨Field.kept_of fun _ _ => rfl, by simp⟩
  ambience := by
    intro hk
    refine h.kept PerBus.ambience hk ?_ _
    simp only [shape, BusKind.all, List.map_cons, List.take_succ_cons, List.take_zero, List.forall_mem_cons]
    exact ⟨Field.kept_of fun _ _ => rfl, Field.kept_of fun _ _ => rfl, by simp⟩

theorem positional : Positional ofText shape Unset := by
  refine positional_of_orderless orderless_shape ?_ fun vs parts h => unset_of_parts h
  simp only [shape, BusKind.all, List.map_cons, List.map_nil, List.forall_mem_cons, List.not_mem_nil,
    false_implies, implies_true, and_true]
  exact ⟨rfl, rfl, rfl⟩

end Gains

namespace Settings

theorem unset_of_parts {vs : List (List Char)} {parts : List (String × (Settings → Settings))}
    (h : Parts shape.fields vs parts) : Unset vs.length (applied parts shape.blank) where
  base := fun hk => h.kept base hk (by simp) _
  gains := by
    intro hk
    refine h.kept gains hk ?_ _
    simp only [shape, List.take_succ_cons, List.take_zero, List.forall_mem_cons]
    exact ⟨Field.kept_of fun _ _ => rfl, by simp⟩

theorem positional : Positional ofText shape Unset := by
  refine positional_of_orderless orderless_shape ?_ fun vs parts h => unset_of_parts h
  simp only [shape, List.forall_mem_cons, List.not_mem_nil, false_implies, implies_true, and_true]
  exact ⟨rfl, rfl⟩

variable {base inner : List Char} {text : String} {a : Settings}

/-- Settings with both of their fields are read field by field. -/
theorem run_of_pair (hbase : IsValue base) (hinner : IsValue inner)
    (htext : Document shape [base, inner] text.toList) :
    ofText text = .ok a ↔
      Whole Decoder.text.reader base a.base ∧ Gains.ofText (String.ofList inner) = .ok a.gains := by
  have hvs : ∀ v ∈ [base, inner], IsValue v := by simp [hbase, hinner]
  have hmap : ∀ {β : Type} (d : Decoder β) (set : β → Settings → Settings) (v : List Char)
      (u : Settings → Settings),
      Whole (d.map set).reader v u ↔ ∃ b, Whole d.reader v b ∧ set b = u := by
    intro β d set v u
    unfold Whole
    simp only [Decoder.map_reader, map_eq_ok]
    constructor
    · rintro ⟨w, hw, b, hread, rfl⟩
      exact ⟨b, ⟨w, hw, hread⟩, rfl⟩
    · rintro ⟨b, ⟨w, hw, hread⟩, rfl⟩
      exact ⟨w, hw, b, hread, rfl⟩
  refine (run_of_document orderless_shape hvs htext).trans ?_
  simp only [shape, parts_cons, parts_nil]
  constructor
  · rintro ⟨parts, ⟨u, rest, hu, ⟨u', rest', hu', rfl, rfl⟩, rfl⟩, rfl⟩
    obtain ⟨b, hb, rfl⟩ := (hmap _ _ _ _).mp hu
    obtain ⟨g, hg, rfl⟩ := (hmap _ _ _ _).mp hu'
    exact ⟨hb, whole_iff_run.mp hg⟩
  · rintro ⟨hb, hg⟩
    exact ⟨_, ⟨_, _, (hmap _ _ _ _).mpr ⟨_, hb, rfl⟩,
      ⟨_, _, (hmap _ _ _ _).mpr ⟨_, whole_iff_run.mpr hg, rfl⟩, rfl, rfl⟩, rfl⟩, rfl⟩

/-- **Gains inside settings may be given in either form.** -/
def PositionalInside : Prop :=
  ∀ (base inner inner' : List Char) (gs : List (List Char)) (text text' : String), IsValue base →
    (∀ v ∈ gs, IsValue v) → Document Gains.shape gs inner → Document Gains.shape gs inner' →
      Document shape [base, inner] text.toList → Document shape [base, inner'] text'.toList →
        ∀ a, (ofText text = .ok a ↔ ofText text' = .ok a) ∧
          (ofText text = .ok a → Gains.ofText (String.ofList inner) = .ok a.gains)

theorem positionalInside : PositionalInside := by
  intro base inner inner' gs text text' hbase hgs hinner hinner' htext htext' a
  have hread := run_of_pair hbase (.of_document hgs hinner) htext (a := a)
  have hread' := run_of_pair hbase (.of_document hgs hinner') htext' (a := a)
  have hsame : Gains.ofText (String.ofList inner) = .ok a.gains ↔
      Gains.ofText (String.ofList inner') = .ok a.gains := by
    rw [← @String.toList_ofList inner] at hinner
    rw [← @String.toList_ofList inner'] at hinner'
    exact (run_of_document Gains.orderless_shape hgs hinner).trans
      (run_of_document Gains.orderless_shape hgs hinner').symm
  exact ⟨hread.trans ((and_congr_right fun _ => hsame).trans hread'.symm), fun h => (hread.mp h).2⟩

end Settings

/-- **A document says the same by position and by name.**  What is refused in one form is refused in the
other one, and what no value was given for has the default of its type. -/
theorem positions_agree :
    Positional EffectRequest.ofText EffectRequest.shape EffectRequest.Unset ∧
      Positional MusicRequest.ofText MusicRequest.shape MusicRequest.Unset ∧
      Positional Settings.ofText Settings.shape Settings.Unset ∧
      Positional Gains.ofText Gains.shape Gains.Unset ∧ Settings.PositionalInside :=
  ⟨EffectRequest.positional, MusicRequest.positional, Settings.positional, Gains.positional,
    Settings.positionalInside⟩

/-- Settings whose gains are a list that stops early, read from the list and from the object of the same
values; and a value that is refused by name because it is refused by position. -/
theorem positions_agree_settings :
    Settings.ofText "\x7b\"sound_base_url\":\"a\",\"bus_defaults\": \x7b\"effects\":0.5\x7d\x7d" =
        .ok ⟨"a", ⟨Binary.ofRatio false 1 2, Binary.ofRatio false 1 5, Binary.ofNat 1⟩⟩ ∧
      ∀ r, MusicRequest.ofText "\x7b\"music\":null\x7d" ≠ .ok r := by
  obtain ⟨-, hmusic, -, -, hinside⟩ := positions_agree
  have hvalue : ∀ v, skip v = .ok ((), []) → IsValue v := fun v h => ⟨[], blank_nil, h⟩
  constructor
  · have hbase : IsValue "\"a\"".toList := hvalue _ (by decide +kernel)
    have hgs : ∀ v ∈ ["0.5".toList], IsValue v := by
      simpa using hvalue "0.5".toList (by decide +kernel)
    have hlist : Document Gains.shape ["0.5".toList] "[0.5]".toList :=
      .inl ⟨[], [], [], blank_nil, blank_nil, blank_nil, rfl⟩
    have heffects : Keyed "effects" "\"effects\":0.5".toList ":0.5".toList :=
      ⟨_, rfl, by decide +kernel⟩
    have hobject : Document Gains.shape ["0.5".toList] " \x7b\"effects\":0.5\x7d".toList :=
      .inr ⟨["\"effects\":0.5".toList], .cons ⟨_, _, heffects, rfl, rfl⟩ (.nil _),
        ⟨[' '], [], [], by simp [Blank, isBlank], blank_nil, blank_nil, rfl⟩⟩
    have hurl : Keyed "sound_base_url" "\"sound_base_url\":\"a\"".toList ":\"a\"".toList :=
      ⟨_, rfl, by decide +kernel⟩
    have hgains : Keyed "bus_defaults" "\"bus_defaults\": \x7b\"effects\":0.5\x7d".toList
        ": \x7b\"effects\":0.5\x7d".toList := ⟨_, rfl, by decide +kernel⟩
    refine (hinside _ _ _ _ "[\"a\",[0.5]]" _ hbase hgs hlist hobject ?_ ?_ _).1.mp (by decide +kernel)
    · exact .inl ⟨[], [], [], blank_nil, blank_nil, blank_nil, rfl⟩
    · exact .inr ⟨_, .cons ⟨_, _, hurl, rfl, rfl⟩ (.cons ⟨_, _, hgains, rfl, rfl⟩ (.nil _)),
        ⟨[], [], [], blank_nil, blank_nil, blank_nil, rfl⟩⟩
  · have hnull : ∀ v ∈ ["null".toList], IsValue v := by
      simpa using hvalue "null".toList (by decide +kernel)
    have hname : Keyed "music" "\"music\":null".toList ":null".toList := ⟨_, rfl, by decide +kernel⟩
    intro r h
    have hlist := (hmusic.alike ["null".toList] "[null]" _ hnull
      ⟨[], [], [], blank_nil, blank_nil, blank_nil, rfl⟩
      ⟨_, .cons ⟨_, _, hname, rfl, rfl⟩ (.nil _),
        ⟨[], [], [], blank_nil, blank_nil, blank_nil, rfl⟩⟩ r).mpr h
    have hrefused : MusicRequest.ofText "[null]" = .error (.wrongType .null "a string") := by
      decide +kernel
    rw [hrefused] at hlist
    cases hlist

end SoundEngine
