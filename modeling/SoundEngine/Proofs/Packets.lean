import SoundEngine.Packet.Command
import SoundEngine.Proofs.Documents

/-!
# A command and the request in it

A command is read quite differently from the request that it carries.  Its kind may come last, so all of
its members are read and kept, and the request is taken from what was kept when the object is complete;
a request that stands alone is put together while its members come.  What the two make of one member is
compared here, and a whole object follows by going through its members.

* §1 brings commands into the form of a reader of objects, and says what a kind of command has to do with
  the shape of its request (`Carries`).
* §2 compares the two readers on one member and on all of them: every member of a command, the kind too,
  is a member that the request accepts (`reads_shape`), and the fields of a request are members that the
  command keeps (`reads_command`).
* §3 does the same for the items of a list.
* §4 states the agreement for whole documents (`commands_agree`).
-/

namespace SoundEngine.Command

open Json Reader RecordShape

variable {ρ : Type} {shape : RecordShape ρ} {s t m : List Char} {ms : List (List Char)}

/-! ## 1. Commands as objects -/

/-- What a member does to a command. -/
def body (key : String) (g : Gathered) : Reader Gathered :=
  if key = kindKey then
    if g.kind.isSome then fail (.duplicateField kindKey)
    else do
      colon
      let kind ← kindDecoder.reader
      pure { g with kind := some kind }
  else do
    colon
    let v ← value innerDepth
    pure { g with members := (key, v) :: g.members }

/-- The reader of a command's members. -/
def objectReader : ObjectReader Gathered Command := ⟨body, Gathered.command⟩

theorem memberStep_eq (st : Bool × Gathered) : memberStep st = objectReader.step st := by
  unfold memberStep ObjectReader.step
  refine bind_congr fun more => ?_
  cases more with
  | false => rfl
  | true =>
    refine bind_congr fun key => ?_
    change _ = body key st.2 >>= _
    unfold body
    by_cases hkey : key = kindKey
    · simp only [hkey, if_true]
      by_cases hkind : st.2.kind.isSome = true
      · simp only [hkind, if_true]
        rfl
      · simp only [hkind, Bool.false_eq_true, if_false, bind_assoc, pure_bind]
    · simp only [hkey, if_false, bind_assoc, pure_bind]

theorem readsObjects : ReadsObjects reader objectReader {} := by
  intro s rest htrim
  have hstep : memberStep = objectReader.step := funext memberStep_eq
  have hmembers : reader s = loop memberStep (true, {}) rest := bind_apply (head_of_object htrim)
  rw [hmembers, hstep]
  rfl

theorem shallow_kindDecoder : kindDecoder.Shallow := Decoder.shallow_variant kinds

/-- The member that holds the kind. -/
theorem body_kind {g g' : Gathered} :
    body kindKey g s = .ok (g', t) ↔ g.kind = none ∧ ∃ u, colon s = .ok ((), u) ∧
      ∃ kind, kindDecoder.reader u = .ok (kind, t) ∧ g' = { g with kind := some kind } := by
  unfold body
  rw [if_pos rfl]
  cases hkind : g.kind with
  | some kind => simp [fail]
  | none =>
    simp only [Option.isSome_none, Bool.false_eq_true, if_false, bind_eq_ok, pure_eq_ok, true_and]
    constructor
    · rintro ⟨_, u, hcolon, kind, v, hread, rfl, rfl⟩
      exact ⟨u, hcolon, kind, hread, rfl⟩
    · rintro ⟨u, hcolon, kind, hread, rfl⟩
      exact ⟨(), u, hcolon, kind, t, hread, rfl, rfl⟩

/-- Any other member. -/
theorem body_other {key : String} (hkey : key ≠ kindKey) {g g' : Gathered} :
    body key g s = .ok (g', t) ↔ ∃ u, colon s = .ok ((), u) ∧
      ∃ v, value innerDepth u = .ok (v, t) ∧ g' = { g with members := (key, v) :: g.members } := by
  unfold body
  simp only [hkey, if_false, bind_eq_ok, pure_eq_ok]
  constructor
  · rintro ⟨_, u, hcolon, v, u', hvalue, rfl, rfl⟩
    exact ⟨u, hcolon, v, hvalue, rfl⟩
  · rintro ⟨u, hcolon, v, hvalue, rfl⟩
    exact ⟨(), u, hcolon, v, t, hvalue, rfl, rfl⟩

theorem lawful_objectReader : objectReader.Lawful where
  takes := by
    intro key g
    refine Takes.ite (fun _ => Takes.ite (fun _ => takes_fail _) fun _ => ?_) fun _ => ?_
    · exact takes_colon.andThen fun _ =>
        (shallow_kindDecoder.lawful.takes.andThen fun _ => takes_pure _).mono (Nat.zero_le 1)
    · exact takes_colon.andThen fun _ =>
        ((takes_value innerDepth).andThen fun _ => takes_pure _).mono (Nat.zero_le 1)
  skips := by
    intro key g s g' t h
    by_cases hkey : key = kindKey
    · subst hkey
      obtain ⟨-, u, hcolon, kind, hread, -⟩ := body_kind.mp h
      exact bind_eq_ok.mpr ⟨(), u, hcolon, shallow_kindDecoder.lawful.skips u kind t hread⟩
    · obtain ⟨u, hcolon, v, hvalue, -⟩ := (body_other hkey).mp h
      exact bind_eq_ok.mpr ⟨(), u, hcolon, skip_of_value hvalue⟩

/-- The command of the kind `kind` carries a request of the shape `shape`. -/
structure Carries (kind : Kind) (shape : RecordShape ρ) (command : ρ → Command) : Prop where
  take_eq : ∀ v, take kind v = command <$> shape.decoder.take v
  /-- No other command looks like it. -/
  only : ∀ kind' v r, take kind' v = .ok (command r) → kind' = kind
  inj : ∀ r r', command r = command r' → r = r'
  shallow : shape.Shallow
  /-- The kind is no field of the request. -/
  noKind : shape.field? kindKey = none

theorem shallow_effect : EffectRequest.shape.Shallow := by
  intro f hf
  simp only [EffectRequest.shape, List.mem_cons, List.not_mem_nil, or_false] at hf
  rcases hf with rfl | rfl | rfl | rfl
  · exact Field.shallow_of Decoder.shallow_text _ _ _
  · exact Field.shallow_of Decoder.shallow_single.optional _ _ _
  · exact Field.shallow_of Decoder.shallow_single.optional _ _ _
  · exact Field.shallow_of Decoder.shallow_single.optional _ _ _

theorem shallow_music : MusicRequest.shape.Shallow := by
  intro f hf
  simp only [MusicRequest.shape, List.mem_cons, List.not_mem_nil, or_false] at hf
  rcases hf with rfl | rfl
  · exact Field.shallow_of Decoder.shallow_text _ _ _
  · exact Field.shallow_of Decoder.shallow_flag.optional _ _ _

/-- What a request is taken for is told by the kind. -/
theorem take_ok {kind : Kind} {v : Value} {c : Command} (h : take kind v = .ok c) :
    match c with
    | .playEffect _ => kind = .playEffect
    | .playMusic _ => kind = .playMusic
    | .stopMusic => kind = .stopMusic
    | .stopAll => kind = .stopAll := by
  cases kind with
  | playEffect =>
    simp only [take, Functor.map, Except.map] at h
    split at h <;> cases h
    rfl
  | playMusic =>
    simp only [take, Functor.map, Except.map] at h
    split at h <;> cases h
    rfl
  | stopMusic =>
    simp only [take, Functor.map, Except.map] at h
    split at h <;> cases h
    rfl
  | stopAll =>
    simp only [take, Functor.map, Except.map] at h
    split at h <;> cases h
    rfl

theorem carries_effect : Carries .playEffect EffectRequest.shape .playEffect where
  take_eq := fun _ => rfl
  only := fun _ _ _ h => take_ok h
  inj := fun _ _ h => playEffect.inj h
  shallow := shallow_effect
  noKind := by decide

theorem carries_music : Carries .playMusic MusicRequest.shape .playMusic where
  take_eq := fun _ => rfl
  only := fun _ _ _ h => take_ok h
  inj := fun _ _ h => playMusic.inj h
  shallow := shallow_music
  noKind := by decide

/-! ## 2. Members -/

/-- A step that gives a result has one to go on with. -/
theorem except_bind_eq_ok {ε α β : Type} {x : Except ε α} {f : α → Except ε β} {b : β} :
    (x >>= f) = .ok b ↔ ∃ a, x = .ok a ∧ f a = .ok b := by
  cases x with
  | error e => simp [bind, Except.bind]
  | ok a => simp [bind, Except.bind]

theorem takeMember_some {key : String} {f : Json.Field ρ} (hfield : shape.field? key = some f)
    {p q : Partial ρ} {v : Value} :
    shape.takeMember p (key, v) = .ok q ↔
      p.check f = .ok () ∧ ∃ update, f.update.take v = .ok update ∧ q = p.put f update := by
  unfold takeMember
  rw [hfield]
  simp only [except_bind_eq_ok]
  constructor
  · rintro ⟨_, hcheck, update, htake, heq⟩
    cases heq
    exact ⟨hcheck, update, htake, rfl⟩
  · rintro ⟨hcheck, update, htake, rfl⟩
    exact ⟨(), hcheck, update, htake, rfl⟩

theorem takeMember_none {key : String} (hfield : shape.field? key = none) {p q : Partial ρ}
    {v : Value} : shape.takeMember p (key, v) = .ok q ↔ p = q := by
  unfold takeMember
  rw [hfield]
  simp

/-- **A field of a request is a member that a command keeps.** -/
theorem member_of_field (hshape : shape.Shallow) (hnoKind : shape.field? kindKey = none)
    {key : String} (hfield : shape.field? key ≠ none) (hkey : IsMember key m) {p q : Partial ρ}
    (h : Whole (shape.objectReader.member p) m q) (g : Gathered) :
    ∃ v, shape.takeMember p (key, v) = .ok q ∧
      Whole (objectReader.member g) m { g with members := (key, v) :: g.members } := by
  have hother : key ≠ kindKey := by
    rintro rfl
    exact hfield hnoKind
  obtain ⟨w, hw, hread⟩ := h
  obtain ⟨u, key', u', hsign, htext, hbody⟩ := ObjectReader.member_eq_ok.mp hread
  -- the key is the one that the member has
  obtain ⟨_, _, _, hsign', htext', -, -⟩ := isMember_iff.mp hkey
  rw [hsign] at hsign'
  cases hsign'
  rw [htext] at htext'
  cases htext'
  obtain ⟨f, hf⟩ := Option.ne_none_iff_exists'.mp hfield
  obtain ⟨hcheck, u'', hcolon, update, hupdate, rfl⟩ := (body_some hf).mp hbody
  obtain ⟨v, hvalue, htake⟩ :=
    ((hshape f (mem_of_field? hf)).reader_eq_ok innerDepth).mp hupdate
  refine ⟨v, (takeMember_some hf).mpr ⟨hcheck, update, htake, rfl⟩, w, hw, ?_⟩
  exact ObjectReader.member_eq_ok.mpr ⟨u, _, u', hsign, htext,
    (body_other hother).mpr ⟨u'', hcolon, v, hvalue, rfl⟩⟩

/-- **A member of a command is accepted by the request.**  The kind is an unknown member there, and
any other member does to the request what its value does to it later. -/
theorem member_cases (hshape : shape.Shallow) (hnoKind : shape.field? kindKey = none)
    {g g' : Gathered} (h : Whole (objectReader.member g) m g') :
    (∃ kind, g' = { g with kind := some kind } ∧
      ∀ p, Whole (shape.objectReader.member p) m p) ∨
    ∃ key v, g' = { g with members := (key, v) :: g.members } ∧
      ∀ p q, shape.takeMember p (key, v) = .ok q → Whole (shape.objectReader.member p) m q := by
  obtain ⟨w, hw, hread⟩ := h
  obtain ⟨u, key, u', hsign, htext, hbody⟩ := ObjectReader.member_eq_ok.mp hread
  have hskip := lawful_objectReader.skips key g u' g' w hbody
  -- a member that is no field of the request is passed over
  have hunknown : shape.field? key = none → ∀ p, Whole (shape.objectReader.member p) m p := by
    intro hfield p
    exact ⟨w, hw, ObjectReader.member_eq_ok.mpr ⟨u, key, u', hsign, htext,
      (body_none hfield).mpr ⟨hskip, rfl⟩⟩⟩
  by_cases hkey : key = kindKey
  · subst hkey
    obtain ⟨-, _, -, kind, -, rfl⟩ := body_kind.mp hbody
    exact .inl ⟨kind, rfl, hunknown hnoKind⟩
  · obtain ⟨u'', hcolon, v, hvalue, rfl⟩ := (body_other hkey).mp hbody
    refine .inr ⟨key, v, rfl, fun p q htaken => ?_⟩
    cases hf : shape.field? key with
    | none =>
      obtain rfl := (takeMember_none hf).mp htaken
      exact hunknown hf p
    | some f =>
      obtain ⟨hcheck, update, htake, rfl⟩ := (takeMember_some hf).mp htaken
      have hupdate := ((hshape f (mem_of_field? hf)).reader_eq_ok innerDepth).mpr ⟨v, hvalue, htake⟩
      exact ⟨w, hw, ObjectReader.member_eq_ok.mpr ⟨u, key, u', hsign, htext,
        (body_some hf).mpr ⟨hcheck, u'', hcolon, update, hupdate, rfl⟩⟩⟩

/-- What a command has kept is enough to know what the request would have made of its members. -/
theorem reads_shape (hshape : shape.Shallow) (hnoKind : shape.field? kindKey = none)
    {g g' : Gathered} (h : objectReader.Reads ms g g') :
    ∃ added : List (String × Value), g'.members = added.reverse ++ g.members ∧
      ∀ p q, added.foldlM shape.takeMember p = .ok q → shape.objectReader.Reads ms p q := by
  induction h with
  | nil g =>
    refine ⟨[], rfl, fun p q hq => ?_⟩
    cases hq
    exact .nil p
  | cons hm hs ih =>
    obtain ⟨added, hmembers, hadded⟩ := ih
    rcases member_cases hshape hnoKind hm with ⟨kind, rfl, hany⟩ | ⟨key, v, rfl, htaken⟩
    · exact ⟨added, hmembers, fun p q hq => .cons (hany p) (hadded p q hq)⟩
    · refine ⟨(key, v) :: added, by simp [hmembers], fun p q hq => ?_⟩
      rw [List.foldlM_cons] at hq
      obtain ⟨p', hp', hq⟩ := except_bind_eq_ok.mp hq
      exact .cons (htaken p p' hp') (hadded p' q hq)

/-- The fields of a request are kept by a command, and the request can be taken from them. -/
theorem reads_command (hshape : shape.Shallow) (hnoKind : shape.field? kindKey = none)
    (hfields : ∀ m ∈ ms, ∃ key, IsMember key m ∧ shape.field? key ≠ none) {p q : Partial ρ}
    (h : shape.objectReader.Reads ms p q) (g : Gathered) :
    ∃ added : List (String × Value),
      objectReader.Reads ms g { g with members := added.reverse ++ g.members } ∧
        added.foldlM shape.takeMember p = .ok q := by
  induction h generalizing g with
  | nil p => exact ⟨[], .nil g, rfl⟩
  | cons hm hs ih =>
    obtain ⟨⟨key, hkey, hfield⟩, hfields'⟩ := List.forall_mem_cons.mp hfields
    obtain ⟨v, htaken, hm'⟩ := member_of_field hshape hnoKind hfield hkey hm g
    obtain ⟨added, hs', hfold⟩ := ih hfields' { g with members := (key, v) :: g.members }
    refine ⟨(key, v) :: added, .cons hm' ?_, ?_⟩
    · simpa using hs'
    · rw [List.foldlM_cons]
      exact except_bind_eq_ok.mpr ⟨_, htaken, hfold⟩

/-- The text of a member with the kind's key and this name. -/
def IsTag (name : String) (m : List Char) : Prop :=
  Whole (do passKeySign; let key ← text; colon; let value ← Decoder.text.reader; pure (key, value)) m
    (kindKey, name)

/-- **The kind may come at any place**, once. -/
theorem member_of_tag {name : String} {kind : Kind} (hname : kinds.lookup name = some kind)
    (h : IsTag name m) {g : Gathered} (hg : g.kind = none) :
    Whole (objectReader.member g) m { g with kind := some kind } := by
  obtain ⟨w, hw, h⟩ := h
  obtain ⟨_, u, hsign, h⟩ := bind_eq_ok.mp h
  obtain ⟨key, u', htext, h⟩ := bind_eq_ok.mp h
  obtain ⟨_, u'', hcolon, h⟩ := bind_eq_ok.mp h
  obtain ⟨value, w', hvalue, h⟩ := bind_eq_ok.mp h
  obtain ⟨heq, rfl⟩ := pure_eq_ok.mp h
  cases heq
  obtain ⟨v, hv, htake⟩ := (Decoder.shallow_text.reader_eq_ok 0).mp hvalue
  have hkind : kindDecoder.reader u'' = .ok (kind, w') := by
    refine (shallow_kindDecoder.reader_eq_ok 0).mpr ⟨v, hv, ?_⟩
    cases v with
    | text s =>
      obtain rfl : s = name := Except.ok.inj htake
      simp [kindDecoder, Decoder.variant, Decoder.scalar, Value.head, hname]
    | _ => cases htake
  exact ⟨w', hw, ObjectReader.member_eq_ok.mpr ⟨u, kindKey, u', hsign, htext,
    body_kind.mpr ⟨hg, u'', hcolon, kind, hkind, rfl⟩⟩⟩

theorem except_map_eq_ok {ε α β : Type} {x : Except ε α} {f : α → β} {b : β} :
    f <$> x = .ok b ↔ ∃ a, x = .ok a ∧ f a = b := by
  cases x with
  | error e => simp [Functor.map, Except.map]
  | ok a => simp [Functor.map, Except.map]

/-- The command of what was kept. -/
theorem Carries.take_iff {kind : Kind} {command : ρ → Command} (hc : Carries kind shape command)
    {v : Value} {kind' : Kind} {r : ρ} :
    take kind' v = .ok (command r) ↔ kind' = kind ∧ shape.decoder.take v = .ok r := by
  constructor
  · intro h
    obtain rfl := hc.only kind' v r h
    rw [hc.take_eq, except_map_eq_ok] at h
    obtain ⟨r', htake, heq⟩ := h
    obtain rfl := hc.inj r' r heq
    exact ⟨rfl, htake⟩
  · rintro ⟨rfl, htake⟩
    rw [hc.take_eq, except_map_eq_ok]
    exact ⟨r, htake, rfl⟩

theorem takeMembers_eq_ok {members : List (String × Value)} {r : ρ} :
    shape.takeMembers members = .ok r ↔
      ∃ q, members.foldlM shape.takeMember ⟨[], shape.blank⟩ = .ok q ∧ q.record = r :=
  except_map_eq_ok

theorem gathered_eq_ok {g : Gathered} {c : Command} :
    g.command = .ok c ↔
      ∃ kind, g.kind = some kind ∧ take kind (.object g.members.reverse) = .ok c := by
  unfold Gathered.command
  cases g.kind with
  | none => simp
  | some kind => simp

/-- **An object that is a command is a request with an unknown member.** -/
theorem Carries.request_of_command {kind : Kind} {command : ρ → Command}
    (hc : Carries kind shape command) {text : String} {r : ρ} (hobject : IsObject text.toList)
    (h : Reader.run reader text = .ok (command r)) :
    Reader.run shape.decoder.reader text = .ok r := by
  obtain ⟨ms, hms, htext⟩ := readsObjects.split lawful_objectReader hobject h
  obtain ⟨g, hreads, hg⟩ := (readsObjects.run_iff lawful_objectReader hms htext).mp h
  obtain ⟨kind', -, htake⟩ := gathered_eq_ok.mp hg
  obtain ⟨-, hrequest⟩ := hc.take_iff.mp htake
  obtain ⟨q, hfold, hrecord⟩ := takeMembers_eq_ok.mp hrequest
  obtain ⟨added, hadded, hshape⟩ := reads_shape hc.shallow hc.noKind hreads
  have hmembers : g.members.reverse = added := by
    rw [hadded]
    simp
  rw [hmembers] at hfold
  exact (shape.readsObjects.run_iff hc.shallow.lawful hms htext).mpr
    ⟨q, hshape _ q hfold, congrArg Except.ok hrecord⟩

/-- **A request becomes a command by the member that holds its kind**, wherever it is put. -/
theorem Carries.command_of_request {kind : Kind} {command : ρ → Command}
    (hc : Carries kind shape command) {name : String} (hname : kinds.lookup name = some kind)
    {before after : List (List Char)} {tag : List Char} (htag : IsTag name tag)
    (hfields : ∀ m ∈ before ++ after, ∃ key, IsMember key m ∧ shape.field? key ≠ none)
    {text text' : String} (htext : ObjectText (before ++ after) text.toList)
    (htext' : ObjectText (before ++ tag :: after) text'.toList) {r : ρ}
    (h : Reader.run shape.decoder.reader text = .ok r) :
    Reader.run reader text' = .ok (command r) := by
  have hms : Members (before ++ after) := fun m hm => (hfields m hm).imp fun _ hkey => hkey.1
  obtain ⟨q, hreads, hrecord⟩ := (shape.readsObjects.run_iff hc.shallow.lawful hms htext).mp h
  obtain ⟨p, hbefore, hafter⟩ := ObjectReader.reads_append.mp hreads
  obtain ⟨hfields₁, hfields₂⟩ := List.forall_mem_append.mp hfields
  obtain ⟨hms₁, hms₂⟩ := List.forall_mem_append.mp hms
  -- the members before the kind, the kind, and the members after it
  obtain ⟨added, hreads₁, hfold₁⟩ := reads_command hc.shallow hc.noKind hfields₁ hbefore {}
  have hkind := member_of_tag hname htag (g := { members := added.reverse ++ [] }) rfl
  obtain ⟨added', hreads₂, hfold₂⟩ := reads_command hc.shallow hc.noKind hfields₂ hafter
    { kind := some kind, members := added.reverse ++ [] }
  have hall := ObjectReader.reads_append.mpr ⟨_, hreads₁, .cons hkind hreads₂⟩
  have hms' : Members (before ++ tag :: after) :=
    List.forall_mem_append.mpr ⟨hms₁, List.forall_mem_cons.mpr
      ⟨ObjectReader.isMember_of_whole lawful_objectReader hkind, hms₂⟩⟩
  have hfold : (added ++ added').foldlM shape.takeMember ⟨[], shape.blank⟩ = .ok q := by
    rw [List.foldlM_append]
    exact except_bind_eq_ok.mpr ⟨p, hfold₁, hfold₂⟩
  have hrequest : shape.takeMembers (added ++ added') = .ok r :=
    takeMembers_eq_ok.mpr ⟨q, hfold, Except.ok.inj hrecord⟩
  have hcommand : Gathered.command
      { kind := some kind, members := added'.reverse ++ (added.reverse ++ []) } =
      .ok (command r) := by
    have hmembers : (added'.reverse ++ (added.reverse ++ [])).reverse = added ++ added' := by simp
    refine gathered_eq_ok.mpr ⟨kind, rfl, ?_⟩
    rw [hmembers]
    exact hc.take_iff.mpr ⟨rfl, hrequest⟩
  exact (readsObjects.run_iff lawful_objectReader hms' htext').mpr ⟨_, hall, hcommand⟩

/-! ## 3. Items -/

theorem readItems_nil {first : Bool} {a r : ρ} :
    RecordShape.readItems [] first a s = .ok (r, t) ↔ trimmed s = ']' :: t ∧ r = a := by
  unfold RecordShape.readItems
  rw [bind_eq_ok]
  constructor
  · rintro ⟨_, u, hclose, h⟩
    obtain ⟨rfl, rfl⟩ := pure_eq_ok.mp h
    exact ⟨closeList_eq_ok.mp hclose, rfl⟩
  · rintro ⟨htrim, rfl⟩
    exact ⟨(), t, closeList_eq_ok.mpr htrim, rfl⟩

theorem readItems_cons {f : Json.Field ρ} {fs : List (Json.Field ρ)} {first : Bool} {a r : ρ} :
    RecordShape.readItems (f :: fs) first a s = .ok (r, t) ↔
      (nextItem first s = .ok (false, t) ∧ r = a) ∨
        ∃ u, nextItem first s = .ok (true, u) ∧ ∃ update v, f.update.reader u = .ok (update, v) ∧
          RecordShape.readItems fs false (update a) v = .ok (r, t) := by
  rw [RecordShape.readItems, bind_eq_ok]
  constructor
  · rintro ⟨more, u, hnext, h⟩
    cases more with
    | false =>
      obtain ⟨rfl, rfl⟩ := pure_eq_ok.mp h
      exact .inl ⟨hnext, rfl⟩
    | true =>
      obtain ⟨update, v, hupdate, h⟩ := bind_eq_ok.mp h
      exact .inr ⟨u, hnext, update, v, hupdate, h⟩
  · rintro (⟨hnext, rfl⟩ | ⟨u, hnext, update, v, hupdate, h⟩)
    · exact ⟨false, t, hnext, rfl⟩
    · exact ⟨true, u, hnext, bind_eq_ok.mpr ⟨update, v, hupdate, h⟩⟩

/-- **The items that a command keeps are those that the request reads.** -/
theorem readItems_of_items {first : Bool} {acc vs : List Value} {depth : Nat}
    (h : loop (itemStep (value depth)) (first, acc) s = .ok (vs, t)) :
    ∃ added : List Value, vs = acc.reverse ++ added ∧
      ∀ (fields : List (Json.Field ρ)) (count fieldCount : Nat) (a r : ρ),
        (∀ f ∈ fields, f.update.Shallow) → takeItems count fieldCount fields added a = .ok r →
          RecordShape.readItems fields first a s = .ok (r, t) := by
  have htakes := takes_itemStep (takes_value depth)
  induction hn : s.length using Nat.strong_induction_on generalizing first acc s with
  | _ n ih =>
  subst hn
  rcases (loop_eq_ok htakes).mp h with ⟨before, u, hturn, hloop⟩ | hturn
  · have hlen := (htakes (first, acc)).length_le hturn
    obtain ⟨u', hnext, v, hvalue, rfl⟩ := itemStep_next.mp hturn
    obtain ⟨added, rfl, hadded⟩ := ih u.length (by omega) hloop rfl
    refine ⟨v :: added, by simp, fun fields count fieldCount a r hfields htake => ?_⟩
    cases fields with
    | nil => cases htake
    | cons f fs =>
      obtain ⟨hf, hfs⟩ := List.forall_mem_cons.mp hfields
      obtain ⟨update, hupdate, htake⟩ := except_bind_eq_ok.mp htake
      have hread := (hf.reader_eq_ok depth).mpr ⟨v, hvalue, hupdate⟩
      exact readItems_cons.mpr (.inr ⟨u', hnext, update, u, hread,
        hadded fs count fieldCount (update a) r hfs htake⟩)
  · obtain ⟨hnext, rfl⟩ := itemStep_end.mp hturn
    refine ⟨[], by simp, fun fields count fieldCount a r _ htake => ?_⟩
    have hra : r = a := by
      cases fields <;> exact (Except.ok.inj htake).symm
    cases fields with
    | nil => exact readItems_nil.mpr ⟨nextItem_no.mp hnext, hra⟩
    | cons f fs => exact readItems_cons.mpr (.inl ⟨hnext, hra⟩)

/-- What follows an item is a list of its own, behind a comma or empty. -/
theorem readItems_restart {fields : List (Json.Field ρ)} {a r : ρ}
    (h : RecordShape.readItems fields false a s = .ok (r, t)) :
    (∃ rest, trimmed s = ',' :: rest ∧ RecordShape.readItems fields true a rest = .ok (r, t)) ∨
      trimmed s = ']' :: t ∧ RecordShape.readItems fields true a (']' :: t) = .ok (r, t) := by
  have hclosed : trimmed (']' :: t) = ']' :: t := trimmed_cons (by decide) t
  cases fields with
  | nil =>
    obtain ⟨htrim, rfl⟩ := readItems_nil.mp h
    exact .inr ⟨htrim, readItems_nil.mpr ⟨hclosed, rfl⟩⟩
  | cons f fs =>
    rcases readItems_cons.mp h with ⟨hnext, rfl⟩ | ⟨u, hnext, update, v, hupdate, hrest⟩
    · exact .inr ⟨nextItem_no.mp hnext, readItems_cons.mpr (.inl ⟨nextItem_no.mpr hclosed, rfl⟩)⟩
    · obtain ⟨rest, htrim, hfirst⟩ := nextItem_next.mp hnext
      exact .inl ⟨rest, htrim, readItems_cons.mpr (.inr ⟨u, hfirst, update, v, hupdate, hrest⟩)⟩

/-- The list `s'` is the list `s` without its first item. -/
def WithoutFirst (s s' : List Char) : Prop :=
  ∃ lead item rest, Blank lead ∧ Whole skip item () ∧
    (s = lead ++ '[' :: (item ++ ',' :: rest) ∧ s' = lead ++ '[' :: rest ∨
      s = lead ++ '[' :: (item ++ ']' :: rest) ∧ s' = lead ++ '[' :: ']' :: rest)

theorem reader_of_list (htrim : trimmed s = '[' :: t) : reader s = readItems t :=
  bind_apply (head_of_list htrim)

theorem readItems_eq_ok {c : Command} :
    readItems s = .ok (c, t) ↔ ∃ u, nextItem true s = .ok (true, u) ∧ ∃ kind v,
      kindDecoder.reader u = .ok (kind, v) ∧ ∃ vs, items false (value innerDepth) v = .ok (vs, t) ∧
        take kind (.list vs) = .ok c := by
  unfold readItems
  rw [bind_eq_ok]
  constructor
  · rintro ⟨more, u, hnext, h⟩
    cases more with
    | false => cases h
    | true =>
      obtain ⟨kind, v, hkind, h⟩ := bind_eq_ok.mp h
      obtain ⟨vs, w, hitems, h⟩ := bind_eq_ok.mp h
      obtain ⟨htake, rfl⟩ := ofResult_eq_ok.mp h
      exact ⟨u, hnext, kind, v, hkind, vs, hitems, htake⟩
  · rintro ⟨u, hnext, kind, v, hkind, vs, hitems, htake⟩
    exact ⟨true, u, hnext, bind_eq_ok.mpr ⟨kind, v, hkind, bind_eq_ok.mpr ⟨vs, t, hitems,
      ofResult_eq_ok.mpr ⟨htake, rfl⟩⟩⟩⟩

/-- What a list that is a command holds after its kind, read as the request reads it. -/
theorem Carries.items_of_command {kind : Kind} {command : ρ → Command}
    (hc : Carries kind shape command) {r : ρ} (h : readItems s = .ok (command r, t)) :
    ∃ v, skip s = .ok ((), v) ∧
      RecordShape.readItems shape.fields false shape.blank v = .ok (r, t) := by
  obtain ⟨u, hnext, kind', v, hkind, vs, hitems, htake⟩ := readItems_eq_ok.mp h
  obtain ⟨-, hrequest⟩ := hc.take_iff.mp htake
  obtain ⟨added, hadded, hread⟩ := readItems_of_items (ρ := ρ) hitems
  have hvs : vs = added := hadded
  subst hvs
  obtain ⟨rfl, -⟩ := nextItem_first.mp hnext
  have hskip := shallow_kindDecoder.lawful.skips _ kind' v hkind
  refine ⟨v, ?_, hread _ _ _ _ _ hc.shallow hrequest⟩
  obtain ⟨depth, hdepth⟩ := skip_eq_ok.mp hskip
  exact skip_eq_ok.mpr ⟨depth, by rw [← trims_passWithin]; exact hdepth⟩

/-- **A list that is a command is a request without its first item.** -/
theorem Carries.request_of_list {kind : Kind} {command : ρ → Command}
    (hc : Carries kind shape command) {text text' : String} {r : ρ}
    (h : Reader.run reader text = .ok (command r)) (hcut : WithoutFirst text.toList text'.toList) :
    Reader.run shape.decoder.reader text' = .ok r := by
  obtain ⟨lead, item, rest, hlead, ⟨w, hw, hitem⟩, hcut⟩ := hcut
  -- both ways of going on after the item in one
  obtain ⟨after, halike, hs⟩ : ∃ after, Alike [] after ∧
      text.toList = lead ++ '[' :: (item ++ after) ∧
      (after = ',' :: rest ∧ text'.toList = lead ++ '[' :: rest ∨
        after = ']' :: rest ∧ text'.toList = lead ++ '[' :: ']' :: rest) := by
    rcases hcut with ⟨hs, hs'⟩ | ⟨hs, hs'⟩
    · exact ⟨_, alike_cons [] (by decide) rest, hs, .inl ⟨rfl, hs'⟩⟩
    · exact ⟨_, alike_cons [] (by decide) rest, hs, .inr ⟨rfl, hs'⟩⟩
  obtain ⟨hs, hs'⟩ := hs
  have hopen : ∀ u, trimmed (lead ++ '[' :: u) = '[' :: u := by
    intro u
    rw [trimmed_append hlead]
    exact trimmed_cons (by decide) u
  obtain ⟨t, hread, ht⟩ := run_eq_ok.mp h
  rw [hs, reader_of_list (hopen _)] at hread
  obtain ⟨v, hskip, hitems⟩ := hc.items_of_command hread
  -- the item ends where the kind ends
  rw [whole_append takes_skip hitem halike] at hskip
  obtain rfl : w ++ after = v := by cases hskip; rfl
  have hstart : ∀ u, text'.toList = lead ++ '[' :: u →
      shape.decoder.reader text'.toList = RecordShape.readItems shape.fields true shape.blank u := by
    intro u hu
    rw [hu]
    exact bind_apply (head_of_list (hopen u))
  refine run_eq_ok.mpr ⟨t, ?_, ht⟩
  rcases readItems_restart hitems with ⟨rest', htrim, hrest⟩ | ⟨htrim, hrest⟩
  · rw [trimmed_append hw] at htrim
    rcases hs' with ⟨rfl, hs'⟩ | ⟨rfl, hs'⟩
    · rw [trimmed_cons (by decide)] at htrim
      rw [hstart _ hs', (List.cons.inj htrim).2]
      exact hrest
    · rw [trimmed_cons (by decide)] at htrim
      exact absurd (List.cons.inj htrim).1 (by decide)
  · rw [trimmed_append hw] at htrim
    rcases hs' with ⟨rfl, hs'⟩ | ⟨rfl, hs'⟩
    · rw [trimmed_cons (by decide)] at htrim
      exact absurd (List.cons.inj htrim).1 (by decide)
    · rw [trimmed_cons (by decide)] at htrim
      rw [hstart _ hs', (List.cons.inj htrim).2]
      exact hrest

/-- Every list that is a command has a first item. -/
theorem Carries.withoutFirst {kind : Kind} {command : ρ → Command}
    (hc : Carries kind shape command) {text : String} {r : ρ} (hlist : IsList text.toList)
    (h : Reader.run reader text = .ok (command r)) :
    ∃ s', WithoutFirst text.toList s' := by
  obtain ⟨rest, htrim⟩ := hlist
  obtain ⟨t, hread, -⟩ := run_eq_ok.mp h
  rw [reader_of_list htrim] at hread
  obtain ⟨v, hskip, hitems⟩ := hc.items_of_command hread
  obtain ⟨-, lead, hlead, hs⟩ := trimmed_eq_cons htrim
  -- the first item, with the blanks after it
  have hitem : ∀ {c : Char} {u : List Char}, trimmed v = c :: u →
      ∃ item, Whole skip item () ∧ rest = item ++ c :: u := by
    intro c u hv
    obtain ⟨-, w, hw, rfl⟩ := trimmed_eq_cons hv
    obtain ⟨m, -, rfl, -⟩ := takes_skip rest () (w ++ c :: u) hskip
    rw [← List.append_assoc] at hskip ⊢
    exact ⟨m ++ w, ⟨w, hw, whole_of_append takes_skip hskip⟩, rfl⟩
  rcases readItems_restart hitems with ⟨u, hv, -⟩ | ⟨hv, -⟩
  · obtain ⟨item, hwhole, rfl⟩ := hitem hv
    exact ⟨_, lead, item, u, hlead, hwhole, .inl ⟨hs, rfl⟩⟩
  · obtain ⟨item, hwhole, rfl⟩ := hitem hv
    exact ⟨_, lead, item, t, hlead, hwhole, .inr ⟨hs, rfl⟩⟩

/-! ## 4. Documents -/

/-- A document that is a command is an object or a list. -/
theorem object_or_list {text : String} {c : Command} (h : ofText text = .ok c) :
    IsObject text.toList ∨ IsList text.toList := by
  obtain ⟨t, hread, -⟩ := run_eq_ok.mp h
  obtain ⟨hd, u, hhead, hrest⟩ := bind_eq_ok.mp hread
  cases hd with
  | list => exact .inr ⟨u, trimmed_of_list hhead⟩
  | object => exact .inl ⟨u, trimmed_of_object hhead⟩
  | _ => cases hrest

/-- **Commands of one kind and requests of one shape agree** on the documents that they accept. -/
structure Agree (shape : RecordShape ρ) (requestOf : String → Except Error ρ) (name : String)
    (command : ρ → Command) : Prop where
  /-- Only objects and lists are commands. -/
  form : ∀ text r, ofText text = .ok (command r) → IsObject text.toList ∨ IsList text.toList
  /-- The same object is a request, in which the kind is an unknown member. -/
  object : ∀ text r, ofText text = .ok (command r) → IsObject text.toList → requestOf text = .ok r
  /-- The list without its first item is a request, and there is a first item. -/
  list : ∀ text r, ofText text = .ok (command r) → IsList text.toList →
    (∃ text' : String, WithoutFirst text.toList text'.toList) ∧
      ∀ text' : String, WithoutFirst text.toList text'.toList → requestOf text' = .ok r
  /-- An object that is a request is made of members, and if all of them are fields it becomes a command
  by one more member, wherever that is put. -/
  tagged : ∀ text r, requestOf text = .ok r → IsObject text.toList →
    (∃ ms, Members ms ∧ ObjectText ms text.toList) ∧
      ∀ (before after : List (List Char)) (tag : List Char) (text' : String),
        ObjectText (before ++ after) text.toList →
        (∀ m ∈ before ++ after, ∃ key, IsMember key m ∧ shape.field? key ≠ none) →
        IsTag name tag → ObjectText (before ++ tag :: after) text'.toList →
          ofText text' = .ok (command r)

theorem Carries.agree {kind : Kind} {command : ρ → Command} (hc : Carries kind shape command)
    {name : String} (hname : kinds.lookup name = some kind) :
    Agree shape (Reader.run shape.decoder.reader) name command where
  form := fun _ _ h => object_or_list h
  object := fun _ _ h hobject => hc.request_of_command hobject h
  list := by
    intro text r h hlist
    obtain ⟨s', hs'⟩ := hc.withoutFirst hlist h
    refine ⟨⟨String.ofList s', ?_⟩, fun text' hcut => hc.request_of_list h hcut⟩
    rw [String.toList_ofList]
    exact hs'
  tagged := by
    intro text r h hobject
    refine ⟨shape.readsObjects.split hc.shallow.lawful hobject h, ?_⟩
    intro before after tag text' htext hfields htag htext'
    exact hc.command_of_request hname htag hfields htext htext' h

/-- **A command and its request agree**, for effects and for music: what is accepted as a command is
accepted as the request in it, as the same object or as the list without its kind; and an object of a
request's fields becomes a command by the member that holds the kind. -/
theorem commands_agree :
    Agree EffectRequest.shape EffectRequest.ofText "play_sound" .playEffect ∧
      Agree MusicRequest.shape MusicRequest.ofText "play_music" .playMusic :=
  ⟨carries_effect.agree rfl, carries_music.agree rfl⟩

/-- An effect with its kind in the middle, a list, and a track that gets its kind at the end. -/
theorem commands_agree_packets :
    EffectRequest.ofText
        "\x7b\"volume\": 50, \"type\": \"play_sound\", \"x\": [], \"sound\": \"a\"\x7d" =
        .ok { name := "a", volume := some (Binary.ofNat 50) } ∧
      MusicRequest.ofText "[ \"m\", false]" = .ok { name := "m", looping := some false } ∧
      ofText "\x7b\"music\":\"m\" , \"type\" : \"play_music\"\x7d" =
        .ok (.playMusic { name := "m" }) := by
  obtain ⟨heffect, hmusic⟩ := commands_agree
  refine ⟨?_, ?_, ?_⟩
  · exact heffect.object _ _ (by decide +kernel) ⟨_, rfl⟩
  · have hcut : WithoutFirst "[\"play_music\", \"m\", false]".toList "[ \"m\", false]".toList :=
      ⟨[], "\"play_music\"".toList, " \"m\", false]".toList, blank_nil,
        ⟨[], blank_nil, by decide +kernel⟩, .inl ⟨rfl, rfl⟩⟩
    exact (hmusic.list _ _ (by decide +kernel) ⟨_, rfl⟩).2 _ hcut
  · have htext : ObjectText (["\"music\":\"m\" ".toList] ++ []) "\x7b\"music\":\"m\" \x7d".toList :=
      ⟨[], [], [], blank_nil, blank_nil, blank_nil, rfl⟩
    have htext' : ObjectText (["\"music\":\"m\" ".toList] ++ [" \"type\" : \"play_music\"".toList])
        "\x7b\"music\":\"m\" , \"type\" : \"play_music\"\x7d".toList :=
      ⟨[], [], [], blank_nil, blank_nil, blank_nil, rfl⟩
    have hfields : ∀ m ∈ ["\"music\":\"m\" ".toList] ++ [],
        ∃ key, IsMember key m ∧ MusicRequest.shape.field? key ≠ none := by
      intro m hm
      obtain rfl : m = "\"music\":\"m\" ".toList := by simpa using hm
      exact ⟨"music", ⟨[' '], by simp [Blank, isBlank], by decide +kernel⟩, by decide⟩
    have htag : IsTag "play_music" " \"type\" : \"play_music\"".toList :=
      ⟨[], blank_nil, by decide +kernel⟩
    exact (hmusic.tagged _ _ (by decide +kernel) ⟨_, rfl⟩).2 _ _ _ _ htext hfields htag htext'

end SoundEngine.Command
