import SoundEngine.Json.Decoder
import SoundEngine.Json.Writer
import SoundEngine.Proofs.Scanning

/-!
# Objects by their members

What a document says is said of its members: which of them there are, and in which order.  This module
takes an object apart.  A member has a text of its own, and is read from it as it is read in the object
(`ObjectReader.member_append`), because whoever reads it takes its value and nothing else.  So an object
is read by reading its members one after another (`ObjectReader.read_eq_ok`), and two readers of the same
object, or one reader of two objects, can be compared member by member.

* §1 is about readers of objects.  They differ in what a member does to what is known already, and agree
  in everything else.
* §2 has the text of an object, put together from the texts of its members, and taken apart.
* §3 is about decoders, which read a value from a text and take it from a value that was read before.
  For scalars the two agree (`Decoder.Shallow.reader_eq_ok`).
* §4 brings records into the form of §1.
-/

namespace SoundEngine.Json

open Reader

variable {α β σ : Type}

/-! ## 1. Readers of objects -/

/-- How an object is read: what a member does to what is known, and what is made of it in the end. -/
structure ObjectReader (σ α : Type) where
  body : String → σ → Reader σ
  finish : σ → Except Error α

namespace ObjectReader

/-- One member, or the end. -/
def step (o : ObjectReader σ α) (st : Bool × σ) : Reader ((Bool × σ) ⊕ α) := do
  if ← nextMember st.1 then
    let key ← Json.text
    let b ← o.body key st.2
    pure (.inl (false, b))
  else .inr <$> ofResult (o.finish st.2)

/-- The members of an object. -/
def read (o : ObjectReader σ α) (a : σ) : Reader α := loop o.step (true, a)

/-- One member from its own text. -/
def member (o : ObjectReader σ α) (a : σ) : Reader σ := do
  passKeySign
  let key ← Json.text
  o.body key a

/-- Every body takes the colon and the value of its member, and nothing else. -/
structure Lawful (o : ObjectReader σ α) : Prop where
  takes : ∀ key a, Takes 1 (o.body key a)
  skips : ∀ key a s b t, o.body key a s = .ok (b, t) → (do colon; skip) s = .ok ((), t)

end ObjectReader

/-- The reader takes the whole text, but for blanks at its end.  So the text is one value, or one member,
with whatever blanks stand before and behind it. -/
def Whole (r : Reader α) (m : List Char) (a : α) : Prop := ∃ w, Blank w ∧ r m = .ok (a, w)

/-- The key of a member, whatever its value. -/
def anyMember : Reader String := do
  passKeySign
  let key ← text
  colon
  skip
  pure key

/-- The text of a member. -/
def IsMember (key : String) (m : List Char) : Prop := Whole anyMember m key

theorem isMember_iff {key : String} {m : List Char} :
    IsMember key m ↔ ∃ u v w, passKeySign m = .ok ((), u) ∧ text u = .ok (key, v) ∧
      (do colon; skip) v = .ok ((), w) ∧ Blank w := by
  unfold IsMember Whole anyMember
  constructor
  · rintro ⟨w, hw, h⟩
    obtain ⟨_, u, hsign, h⟩ := bind_eq_ok.mp h
    obtain ⟨key', v, hkey, h⟩ := bind_eq_ok.mp h
    obtain ⟨_, v', hcolon, h⟩ := bind_eq_ok.mp h
    obtain ⟨_, w', hskip, h⟩ := bind_eq_ok.mp h
    obtain ⟨rfl, rfl⟩ := pure_eq_ok.mp h
    exact ⟨u, v, w', hsign, hkey, bind_eq_ok.mpr ⟨(), v', hcolon, hskip⟩, hw⟩
  · rintro ⟨u, v, w, hsign, hkey, hvalue, hw⟩
    obtain ⟨_, v', hcolon, hskip⟩ := bind_eq_ok.mp hvalue
    exact ⟨w, hw, bind_eq_ok.mpr ⟨(), u, hsign, bind_eq_ok.mpr ⟨key, v, hkey,
      bind_eq_ok.mpr ⟨(), v', hcolon, bind_eq_ok.mpr ⟨(), w, hskip, rfl⟩⟩⟩⟩⟩

namespace ObjectReader

variable {o : ObjectReader σ α} {a b : σ} {s t : List Char} {x : α}

theorem member_eq_ok :
    o.member a s = .ok (b, t) ↔ ∃ u key v, passKeySign s = .ok ((), u) ∧ text u = .ok (key, v) ∧
      o.body key a v = .ok (b, t) := by
  unfold member
  constructor
  · intro h
    obtain ⟨_, u, hsign, h⟩ := bind_eq_ok.mp h
    obtain ⟨key, v, hkey, h⟩ := bind_eq_ok.mp h
    exact ⟨u, key, v, hsign, hkey, h⟩
  · rintro ⟨u, key, v, hsign, hkey, h⟩
    exact bind_eq_ok.mpr ⟨(), u, hsign, bind_eq_ok.mpr ⟨key, v, hkey, h⟩⟩

theorem takes_member (ho : o.Lawful) (a : σ) : Takes 1 (o.member a) :=
  (takes_passKeySign.bind fun _ => takes_text.bind fun key => ho.takes key a).mono (by omega)

theorem trims_member (o : ObjectReader σ α) (a : σ) : Trims (o.member a) := trims_passKeySign.bind _

theorem takes_step (ho : o.Lawful) (st : Bool × σ) : Takes 1 (o.step st) := by
  refine takes_nextMember.andThen fun _ => Takes.ite (fun _ => ?_) fun _ => ?_
  · exact (takes_text.bind fun key => (ho.takes key st.2).bind fun _ => takes_pure _).mono
      (Nat.zero_le _)
  · exact (takes_ofResult _).map _

/-- The end of the object. -/
theorem step_end {first : Bool} :
    o.step (first, a) s = .ok (.inr x, t) ↔ trimmed s = '\x7d' :: t ∧ o.finish a = .ok x := by
  unfold step
  rw [bind_eq_ok]
  constructor
  · rintro ⟨more, u, hnext, h⟩
    cases more with
    | false =>
      obtain ⟨y, hy, heq⟩ := map_eq_ok.mp h
      obtain ⟨hfinish, rfl⟩ := ofResult_eq_ok.mp hy
      cases heq
      exact ⟨nextMember_no.mp hnext, hfinish⟩
    | true =>
      obtain ⟨key, v, -, h⟩ := bind_eq_ok.mp h
      obtain ⟨b, v', -, h⟩ := bind_eq_ok.mp h
      cases h
  · rintro ⟨htrim, hfinish⟩
    exact ⟨false, t, nextMember_no.mpr htrim,
      map_eq_ok.mpr ⟨x, ofResult_eq_ok.mpr ⟨hfinish, rfl⟩, rfl⟩⟩

theorem step_inl {first : Bool} {st : Bool × σ} :
    o.step (first, a) s = .ok (.inl st, t) ↔
      ∃ u, nextMember first s = .ok (true, u) ∧ ∃ key v, text u = .ok (key, v) ∧
        o.body key a v = .ok (st.2, t) ∧ st.1 = false := by
  unfold step
  rw [bind_eq_ok]
  constructor
  · rintro ⟨more, u, hnext, h⟩
    cases more with
    | false =>
      obtain ⟨y, -, heq⟩ := map_eq_ok.mp h
      cases heq
    | true =>
      obtain ⟨key, v, hkey, h⟩ := bind_eq_ok.mp h
      obtain ⟨b, v', hbody, h⟩ := bind_eq_ok.mp h
      cases h
      exact ⟨u, hnext, key, v, hkey, hbody, rfl⟩
  · rintro ⟨u, hnext, key, v, hkey, hbody, hfirst⟩
    refine ⟨true, u, hnext, bind_eq_ok.mpr ⟨key, v, hkey, bind_eq_ok.mpr ⟨st.2, t, hbody, ?_⟩⟩⟩
    obtain ⟨_, b⟩ := st
    cases hfirst
    rfl

theorem step_first {st : Bool × σ} :
    o.step (true, a) s = .ok (.inl st, t) ↔ o.member a s = .ok (st.2, t) ∧ st.1 = false := by
  rw [step_inl, member_eq_ok]
  simp only [nextMember_first]
  constructor
  · rintro ⟨u, hsign, key, v, hkey, hbody, hfirst⟩
    exact ⟨⟨u, key, v, hsign, hkey, hbody⟩, hfirst⟩
  · rintro ⟨⟨u, key, v, hsign, hkey, hbody⟩, hfirst⟩
    exact ⟨u, hsign, key, v, hkey, hbody, hfirst⟩

theorem step_next {st : Bool × σ} :
    o.step (false, a) s = .ok (.inl st, t) ↔
      ∃ rest, trimmed s = ',' :: rest ∧ o.member a rest = .ok (st.2, t) ∧ st.1 = false := by
  rw [step_inl]
  simp only [nextMember_next, member_eq_ok]
  constructor
  · rintro ⟨u, ⟨rest, htrim, hsign⟩, key, v, hkey, hbody, hfirst⟩
    exact ⟨rest, htrim, ⟨u, key, v, hsign, hkey, hbody⟩, hfirst⟩
  · rintro ⟨rest, htrim, ⟨u, key, v, hsign, hkey, hbody⟩, hfirst⟩
    exact ⟨u, ⟨rest, htrim, hsign⟩, key, v, hkey, hbody, hfirst⟩

/-- A member that has been read is a member, whoever reads it. -/
theorem anyMember_of_member (ho : o.Lawful) (h : o.member a s = .ok (b, t)) :
    ∃ key, anyMember s = .ok (key, t) := by
  obtain ⟨u, key, v, hsign, hkey, hbody⟩ := member_eq_ok.mp h
  obtain ⟨_, v', hcolon, hskip⟩ := bind_eq_ok.mp (ho.skips key a v b t hbody)
  exact ⟨key, bind_eq_ok.mpr ⟨(), u, hsign, bind_eq_ok.mpr ⟨key, v, hkey,
    bind_eq_ok.mpr ⟨(), v', hcolon, bind_eq_ok.mpr ⟨(), t, hskip, rfl⟩⟩⟩⟩⟩

end ObjectReader

theorem takes_anyMember : Takes 1 anyMember :=
  (takes_passKeySign.bind fun _ => takes_text.bind fun _ => takes_colon.bind fun _ =>
    takes_skip.bind fun _ => takes_pure _).mono (by omega)

/-- A text that stands alone may be followed by one that does not go on with a number. -/
theorem whole_append {r : Reader α} {least : Nat} (hr : Takes least r) {m w rest : List Char} {a : α}
    (h : r m = .ok (a, w)) (hrest : Alike [] rest) : r (m ++ rest) = .ok (a, w ++ rest) := by
  obtain ⟨m', -, rfl, ht⟩ := hr m a w h
  rw [List.append_assoc]
  refine ht (w ++ rest) ?_
  cases w with
  | nil => exact hrest
  | cons c w => exact .inl rfl

/-- What is read in front of another text is read alone. -/
theorem whole_of_append {r : Reader α} {least : Nat} (hr : Takes least r) {m w rest : List Char}
    {a : α} (h : r (m ++ rest) = .ok (a, w ++ rest)) : r m = .ok (a, w) := by
  obtain ⟨m', -, hsplit, ht⟩ := hr (m ++ rest) a (w ++ rest) h
  have hm : m = m' ++ w := by
    rw [← List.append_assoc] at hsplit
    exact List.append_cancel_right hsplit
  rw [hm]
  refine ht w ?_
  cases w with
  | nil => exact alike_nil _
  | cons c w => exact .inl rfl

namespace ObjectReader

variable {o : ObjectReader σ α} {a b c : σ} {s t u m : List Char} {ms : List (List Char)} {x : α}

/-- **A member is read in front of others as it is read alone.** -/
theorem member_append (ho : o.Lawful) {key : String} (hm : IsMember key m) {rest : List Char}
    (hrest : Alike [] rest) :
    o.member a (m ++ rest) = .ok (b, u) ↔
      ∃ w, Blank w ∧ u = w ++ rest ∧ o.member a m = .ok (b, w) := by
  constructor
  · intro h
    obtain ⟨w, hw, hany⟩ := hm
    obtain ⟨key', hany'⟩ := anyMember_of_member ho h
    -- whoever reads the member stops where its value ends
    rw [whole_append takes_anyMember hany hrest] at hany'
    cases hany'
    exact ⟨w, hw, rfl, whole_of_append (takes_member ho a) h⟩
  · rintro ⟨w, -, rfl, h⟩
    exact whole_append (takes_member ho a) h hrest

/-- The members one after another, each from its own text. -/
inductive Reads (o : ObjectReader σ α) : List (List Char) → σ → σ → Prop
  | nil (a : σ) : Reads o [] a a
  | cons {m : List Char} {ms : List (List Char)} {a b c : σ} (h : Whole (o.member a) m b)
    (hs : Reads o ms b c) : Reads o (m :: ms) a c

theorem reads_nil : o.Reads [] a c ↔ a = c := by
  constructor
  · intro h
    cases h
    rfl
  · rintro rfl
    exact .nil a

theorem reads_cons : o.Reads (m :: ms) a c ↔ ∃ b, Whole (o.member a) m b ∧ o.Reads ms b c := by
  constructor
  · intro h
    cases h with
    | cons h hs => exact ⟨_, h, hs⟩
  · rintro ⟨b, h, hs⟩
    exact .cons h hs

theorem reads_append {ms' : List (List Char)} :
    o.Reads (ms ++ ms') a c ↔ ∃ b, o.Reads ms a b ∧ o.Reads ms' b c := by
  induction ms generalizing a with
  | nil => simp [reads_nil]
  | cons m ms ih =>
    simp only [List.cons_append, reads_cons, ih]
    constructor
    · rintro ⟨b, h, d, hs, hs'⟩
      exact ⟨d, ⟨b, h, hs⟩, hs'⟩
    · rintro ⟨d, ⟨b, h, hs⟩, hs'⟩
      exact ⟨b, h, d, hs, hs'⟩

/-- A member that is read has the text of a member. -/
theorem isMember_of_whole (ho : o.Lawful) (h : Whole (o.member a) m b) : ∃ key, IsMember key m := by
  obtain ⟨w, hw, hread⟩ := h
  obtain ⟨key, hany⟩ := anyMember_of_member ho hread
  exact ⟨key, w, hw, hany⟩

end ObjectReader

/-! ## 2. The text of an object -/

/-- The members of an object after the first one. -/
def followers (ms : List (List Char)) : List Char := ms.flatMap fun m => ',' :: m

theorem writeMembers_cons (m : List Char) (ms : List (List Char)) :
    writeMembers (m :: ms) = m ++ followers ms := by
  induction ms generalizing m with
  | nil => simp [writeMembers, followers]
  | cons m' ms ih =>
    have hnext : writeMembers (m :: m' :: ms) = m ++ ',' :: writeMembers (m' :: ms) := rfl
    have hfollow : followers (m' :: ms) = ',' :: (m' ++ followers ms) := rfl
    rw [hnext, ih, hfollow]

/-- Every text of the list is the text of a member. -/
def Members (ms : List (List Char)) : Prop := ∀ m ∈ ms, ∃ key, IsMember key m

/-- What follows a member begins with a comma or a bracket. -/
theorem alike_followers (ms : List (List Char)) (t : List Char) :
    Alike [] (followers ms ++ '\x7d' :: t) := by
  cases ms with
  | nil => exact alike_cons [] (by decide) t
  | cons m ms => exact alike_cons [] (by decide) _

namespace ObjectReader

variable {o : ObjectReader σ α} {a b c : σ} {s t u w : List Char} {ms : List (List Char)} {x : α}

/-- The end of an object ends the loop. -/
theorem loop_closed (ho : o.Lawful) {first : Bool} (htrim : trimmed s = '\x7d' :: t) :
    loop o.step (first, a) s = .ok (x, u) ↔ u = t ∧ o.finish a = .ok x := by
  rw [loop_eq_ok (takes_step ho), step_end, htrim]
  constructor
  · rintro (⟨st, rest, hturn, -⟩ | ⟨heq, hfinish⟩)
    · obtain ⟨v, hnext, -⟩ := step_inl.mp hturn
      rw [nextMember_no.mpr htrim] at hnext
      cases hnext
    · exact ⟨(List.cons.inj heq).2.symm, hfinish⟩
  · rintro ⟨rfl, hfinish⟩
    exact .inr ⟨rfl, hfinish⟩

/-- A turn with a member reads the member alone and leaves the blanks after it. -/
theorem loop_member (ho : o.Lawful) {first : Bool} {key : String} {m rest : List Char}
    (hm : IsMember key m) (hrest : Alike [] rest) (hopen : ∀ t, trimmed s ≠ '\x7d' :: t)
    (hturn : ∀ b u, o.step (first, a) s = .ok (.inl (false, b), u) ↔
      o.member a (m ++ rest) = .ok (b, u)) :
    loop o.step (first, a) s = .ok (x, u) ↔
      ∃ b w, Blank w ∧ o.member a m = .ok (b, w) ∧
        loop o.step (false, b) (w ++ rest) = .ok (x, u) := by
  rw [loop_eq_ok (takes_step ho), step_end]
  constructor
  · rintro (⟨⟨first', b⟩, v, hstep, hloop⟩ | ⟨heq, -⟩)
    · obtain rfl : first' = false := by
        obtain ⟨_, -, _, _, -, -, hfirst⟩ := step_inl.mp hstep
        exact hfirst
      obtain ⟨w, hw, rfl, halone⟩ := (member_append ho hm hrest).mp ((hturn b v).mp hstep)
      exact ⟨b, w, hw, halone, hloop⟩
    · exact absurd heq (hopen u)
  · rintro ⟨b, w, hw, halone, hloop⟩
    have hmember := (member_append ho hm hrest).mpr ⟨w, hw, rfl, halone⟩
    exact .inl ⟨(false, b), w ++ rest, (hturn b _).mpr hmember, hloop⟩

/-- What is left of an object after one of its members. -/
theorem loop_followers (ho : o.Lawful) (hw : Blank w) (hms : Members ms) :
    loop o.step (false, a) (w ++ (followers ms ++ '\x7d' :: t)) = .ok (x, u) ↔
      u = t ∧ ∃ b, o.Reads ms a b ∧ o.finish b = .ok x := by
  induction ms generalizing a w with
  | nil =>
    have htrim : trimmed (w ++ (followers [] ++ '\x7d' :: t)) = '\x7d' :: t := by
      rw [trimmed_append hw]
      exact trimmed_cons (by decide) t
    simp only [loop_closed ho htrim, reads_nil, exists_eq_left']
  | cons m ms ih =>
    obtain ⟨⟨key, hm⟩, hms'⟩ := List.forall_mem_cons.mp hms
    have htrim : trimmed (w ++ (followers (m :: ms) ++ '\x7d' :: t)) =
        ',' :: (m ++ (followers ms ++ '\x7d' :: t)) := by
      have hsplit : followers (m :: ms) ++ '\x7d' :: t =
          ',' :: (m ++ (followers ms ++ '\x7d' :: t)) := by
        change ',' :: (m ++ followers ms) ++ '\x7d' :: t = _
        rw [List.cons_append, List.append_assoc]
      rw [trimmed_append hw, hsplit]
      exact trimmed_cons (by decide) _
    rw [loop_member ho hm (alike_followers ms t) (fun t heq => ?_) fun b u => ?_]
    · constructor
      · rintro ⟨b, v, hv, halone, hloop⟩
        obtain ⟨rfl, c, hreads, hfinish⟩ := (ih hv hms').mp hloop
        exact ⟨rfl, c, .cons ⟨v, hv, halone⟩ hreads, hfinish⟩
      · rintro ⟨rfl, c, hreads, hfinish⟩
        obtain ⟨b, ⟨v, hv, halone⟩, hreads⟩ := reads_cons.mp hreads
        exact ⟨b, v, hv, halone, (ih hv hms').mpr ⟨rfl, c, hreads, hfinish⟩⟩
    · -- a comma comes first
      rw [htrim] at heq
      exact absurd (List.cons.inj heq).1 (by decide)
    · rw [step_next, htrim]
      simp

/-- **An object is read member by member.** -/
theorem read_eq_ok (ho : o.Lawful) (hw : Blank w) (hms : Members ms) :
    o.read a (w ++ (writeMembers ms ++ '\x7d' :: t)) = .ok (x, u) ↔
      u = t ∧ ∃ b, o.Reads ms a b ∧ o.finish b = .ok x := by
  unfold read
  cases ms with
  | nil =>
    have htrim : trimmed (w ++ (writeMembers [] ++ '\x7d' :: t)) = '\x7d' :: t := by
      rw [trimmed_append hw]
      exact trimmed_cons (by decide) t
    simp only [loop_closed ho htrim, reads_nil, exists_eq_left']
  | cons m ms =>
    obtain ⟨⟨key, hm⟩, hms'⟩ := List.forall_mem_cons.mp hms
    have halike := alike_followers ms t
    rw [writeMembers_cons, List.append_assoc,
      loop_member ho hm halike (fun t heq => ?_) fun b u => ?_]
    · constructor
      · rintro ⟨b, v, hv, halone, hloop⟩
        obtain ⟨rfl, c, hreads, hfinish⟩ := (loop_followers ho hv hms').mp hloop
        exact ⟨rfl, c, .cons ⟨v, hv, halone⟩ hreads, hfinish⟩
      · rintro ⟨rfl, c, hreads, hfinish⟩
        obtain ⟨b, ⟨v, hv, halone⟩, hreads⟩ := reads_cons.mp hreads
        exact ⟨b, v, hv, halone, (loop_followers ho hv hms').mpr ⟨rfl, c, hreads, hfinish⟩⟩
    · -- a member does not begin with a bracket
      obtain ⟨v, hv, hany⟩ := hm
      obtain ⟨_, v', hsign, -⟩ := bind_eq_ok.mp (whole_append takes_anyMember hany halike)
      rw [passKeySign_eq_ok, ← trimmed_append hw, heq] at hsign
      exact absurd (List.cons.inj hsign).1 (by decide)
    · rw [step_first, (trims_member o a).blank hw]
      simp

/-- The text of a member that was read, with the blanks after it. -/
theorem member_split (ho : o.Lawful) {rest : List Char} (h : o.member a s = .ok (b, w ++ rest))
    (hw : Blank w) : ∃ m, (∃ key, IsMember key m) ∧ s = m ++ rest := by
  obtain ⟨m, -, rfl, ht⟩ := takes_member ho a s b (w ++ rest) h
  have halike : Alike (w ++ rest) w := by
    cases w with
    | nil => exact alike_nil _
    | cons c w => exact .inl rfl
  obtain ⟨key, hany⟩ := anyMember_of_member ho (ht w halike)
  exact ⟨m ++ w, ⟨key, w, hw, hany⟩, (List.append_assoc m w rest).symm⟩

theorem loop_split (ho : o.Lawful) (h : loop o.step (false, a) s = .ok (x, t)) :
    ∃ w ms, Blank w ∧ Members ms ∧ s = w ++ (followers ms ++ '\x7d' :: t) := by
  induction hn : s.length using Nat.strong_induction_on generalizing a s with
  | _ n ih =>
  subst hn
  rcases (loop_eq_ok (takes_step ho)).mp h with ⟨⟨first, b⟩, u, hturn, hloop⟩ | hturn
  · have hlen := (takes_step ho (false, a)).length_le hturn
    obtain ⟨rest, htrim, hmember, rfl⟩ := step_next.mp hturn
    obtain ⟨w', ms, hw', hms, rfl⟩ := ih u.length (by omega) hloop rfl
    obtain ⟨m, hm, rfl⟩ := member_split ho hmember hw'
    obtain ⟨-, w, hw, rfl⟩ := trimmed_eq_cons htrim
    refine ⟨w, m :: ms, hw, List.forall_mem_cons.mpr ⟨hm, hms⟩, ?_⟩
    change w ++ ',' :: (m ++ _) = w ++ (',' :: (m ++ followers ms) ++ '\x7d' :: t)
    rw [List.cons_append, List.append_assoc]
  · obtain ⟨htrim, -⟩ := step_end.mp hturn
    obtain ⟨-, w, hw, rfl⟩ := trimmed_eq_cons htrim
    exact ⟨w, [], hw, List.forall_mem_nil _, rfl⟩

/-- **Every object that is read is made of members.** -/
theorem read_split (ho : o.Lawful) (h : o.read a s = .ok (x, t)) :
    ∃ w ms, Blank w ∧ Members ms ∧ s = w ++ (writeMembers ms ++ '\x7d' :: t) := by
  rcases (loop_eq_ok (takes_step ho)).mp h with ⟨⟨first, b⟩, u, hturn, hloop⟩ | hturn
  · obtain ⟨hmember, rfl⟩ := step_first.mp hturn
    obtain ⟨w', ms, hw', hms, rfl⟩ := loop_split ho hloop
    obtain ⟨m, hm, rfl⟩ := member_split ho hmember hw'
    refine ⟨[], m :: ms, blank_nil, List.forall_mem_cons.mpr ⟨hm, hms⟩, ?_⟩
    rw [writeMembers_cons, List.append_assoc, List.nil_append]
  · obtain ⟨htrim, -⟩ := step_end.mp hturn
    obtain ⟨-, w, hw, rfl⟩ := trimmed_eq_cons htrim
    exact ⟨w, [], hw, List.forall_mem_nil _, rfl⟩

end ObjectReader

/-- The text of an object with these members.  Blanks may stand around the object and in an empty
one; those around a member belong to the member. -/
def ObjectText (ms : List (List Char)) (s : List Char) : Prop :=
  ∃ lead w trail, Blank lead ∧ Blank w ∧ Blank trail ∧
    s = lead ++ '\x7b' :: (w ++ (writeMembers ms ++ '\x7d' :: trail))

/-- The text of a document is an object: behind its blanks it begins with a brace.  Whether a value
follows is not asked. -/
def IsObject (s : List Char) : Prop := ∃ rest, trimmed s = '\x7b' :: rest

/-- The text of a document is a list: behind its blanks it begins with a bracket.  Whether a value follows
is not asked. -/
def IsList (s : List Char) : Prop := ∃ rest, trimmed s = '[' :: rest

section Text

variable {s : List Char} {ms : List (List Char)} {o : ObjectReader σ α} {start : σ} {x : α}

/-- What has been read member by member is a list of members. -/
theorem ObjectReader.members_of_reads (ho : o.Lawful) {a b : σ} (h : o.Reads ms a b) :
    Members ms := by
  induction h with
  | nil a => exact List.forall_mem_nil _
  | cons hm _ ih => exact List.forall_mem_cons.mpr ⟨isMember_of_whole ho hm, ih⟩

/-- A written object is the text of its members. -/
theorem objectText_writeObject (ms : List (List Char)) : ObjectText ms (writeObject ms) :=
  ⟨[], [], [], blank_nil, blank_nil, blank_nil, rfl⟩

/-- A reader that goes on with the members of an object. -/
def ReadsObjects (r : Reader α) (o : ObjectReader σ α) (start : σ) : Prop :=
  ∀ s rest, trimmed s = '\x7b' :: rest → r s = o.read start rest

/-- **A document that is an object says what its members say.** -/
theorem ReadsObjects.run_iff {r : Reader α} (hr : ReadsObjects r o start) (ho : o.Lawful)
    (hms : Members ms) {text : String} (htext : ObjectText ms text.toList) :
    Reader.run r text = .ok x ↔ ∃ b, o.Reads ms start b ∧ o.finish b = .ok x := by
  obtain ⟨lead, w, trail, hlead, hw, htrail, heq⟩ := htext
  have htrim : trimmed text.toList = '\x7b' :: (w ++ (writeMembers ms ++ '\x7d' :: trail)) := by
    rw [heq, trimmed_append hlead]
    exact trimmed_cons (by decide) _
  rw [run_eq_ok, hr _ _ htrim]
  simp only [ObjectReader.read_eq_ok ho hw hms]
  constructor
  · rintro ⟨t, ⟨-, h⟩, -⟩
    exact h
  · intro h
    exact ⟨trail, ⟨rfl, h⟩, trimmed_eq_nil_iff.mpr htrail⟩

/-- Every document that is read as an object is made of members. -/
theorem ReadsObjects.split {r : Reader α} (hr : ReadsObjects r o start) (ho : o.Lawful)
    {text : String} (hobject : IsObject text.toList) (h : Reader.run r text = .ok x) :
    ∃ ms, Members ms ∧ ObjectText ms text.toList := by
  obtain ⟨rest, htrim⟩ := hobject
  obtain ⟨t, hread, ht⟩ := run_eq_ok.mp h
  rw [hr _ _ htrim] at hread
  obtain ⟨w, ms, hw, hms, rfl⟩ := ObjectReader.read_split ho hread
  obtain ⟨-, lead, hlead, heq⟩ := trimmed_eq_cons htrim
  exact ⟨ms, hms, lead, w, t, hlead, hw, trimmed_eq_nil_iff.mp ht, heq⟩

end Text

/-! ## 3. Decoders -/

section Scalars

variable {s t : List Char} {h : Head} {depth : Nat}

/-- A scalar is read completely with its beginning. -/
theorem value_of_head (hs : head s = .ok (h, t)) (hlist : h ≠ .list) (hobject : h ≠ .object)
    (depth : Nat) : ∃ v, v.head = h ∧ value depth s = .ok (v, t) := by
  cases h with
  | list => exact absurd rfl hlist
  | object => exact absurd rfl hobject
  | null => cases depth <;> exact ⟨.null, rfl, bind_eq_ok.mpr ⟨_, t, hs, rfl⟩⟩
  | flag b => cases depth <;> exact ⟨.flag b, rfl, bind_eq_ok.mpr ⟨_, t, hs, rfl⟩⟩
  | number n => cases depth <;> exact ⟨.number n, rfl, bind_eq_ok.mpr ⟨_, t, hs, rfl⟩⟩
  | text c => cases depth <;> exact ⟨.text c, rfl, bind_eq_ok.mpr ⟨_, t, hs, rfl⟩⟩

theorem head_of_value {v : Value} (hv : value depth s = .ok (v, t)) (hlist : v.head ≠ .list)
    (hobject : v.head ≠ .object) : head s = .ok (v.head, t) := by
  -- the character that opens a value tells its kind, and for a scalar there is nothing else
  have hopen : ∃ h u, head s = .ok (h, u) ∧ (h ≠ .list → h ≠ .object → v.head = h ∧ u = t) ∧
      (h = .list → v.head = .list) ∧ (h = .object → v.head = .object) := by
    cases depth with
    | zero =>
      obtain ⟨h, u, hhead, hrest⟩ := bind_eq_ok.mp hv
      refine ⟨h, u, hhead, ?_⟩
      cases h with
      | list => exact absurd hrest fail_ne_ok
      | object => exact absurd hrest fail_ne_ok
      | _ =>
        obtain ⟨rfl, rfl⟩ := pure_eq_ok.mp hrest
        simp [Value.head]
    | succ depth =>
      obtain ⟨h, u, hhead, hrest⟩ := bind_eq_ok.mp hv
      refine ⟨h, u, hhead, ?_⟩
      cases h with
      | list =>
        obtain ⟨vs, -, rfl⟩ := map_eq_ok.mp hrest
        simp [Value.head]
      | object =>
        obtain ⟨ms, -, rfl⟩ := map_eq_ok.mp hrest
        simp [Value.head]
      | _ =>
        obtain ⟨rfl, rfl⟩ := pure_eq_ok.mp hrest
        simp [Value.head]
  obtain ⟨h, u, hhead, hscalar, hl, ho⟩ := hopen
  obtain ⟨heq, rfl⟩ := hscalar (fun hh => hlist (hl hh)) fun hh => hobject (ho hh)
  rw [heq]
  exact hhead

end Scalars

namespace Decoder

variable {β γ : Type} {d : Decoder β} {s t : List Char} {b : β}

/-- The decoder takes a value and nothing else. -/
structure Lawful (d : Decoder β) : Prop where
  takes : Takes 1 d.reader
  skips : ∀ s b t, d.reader s = .ok (b, t) → skip s = .ok ((), t)

/-- What the decoder makes of a value is told by the beginning of the value, and lists and objects are
refused. -/
structure ShallowBy (g : Head → Except Error β) (d : Decoder β) : Prop where
  noList : ∀ b, g .list ≠ .ok b
  noObject : ∀ b, g .object ≠ .ok b
  read_eq : ∀ h, d.read h = ofResult (g h)
  take_eq : ∀ v, d.take v = g v.head

/-- The decoder accepts scalars only. -/
def Shallow (d : Decoder β) : Prop := ∃ g, ShallowBy g d

theorem ShallowBy.reader_eq_ok {g : Head → Except Error β} (hd : ShallowBy g d) :
    d.reader s = .ok (b, t) ↔ ∃ h, head s = .ok (h, t) ∧ g h = .ok b := by
  unfold reader
  rw [bind_eq_ok]
  simp only [hd.read_eq, ofResult_eq_ok]
  constructor
  · rintro ⟨h, u, hhead, hg, rfl⟩
    exact ⟨h, hhead, hg⟩
  · rintro ⟨h, hhead, hg⟩
    exact ⟨h, t, hhead, hg, rfl⟩

/-- **To read a scalar is to read a value and to take the scalar from it.** -/
theorem Shallow.reader_eq_ok (hd : d.Shallow) (depth : Nat) :
    d.reader s = .ok (b, t) ↔ ∃ v, value depth s = .ok (v, t) ∧ d.take v = .ok b := by
  obtain ⟨g, hg⟩ := hd
  rw [hg.reader_eq_ok]
  simp only [hg.take_eq]
  constructor
  · rintro ⟨h, hhead, hb⟩
    have hlist : h ≠ .list := by
      rintro rfl
      exact hg.noList b hb
    have hobject : h ≠ .object := by
      rintro rfl
      exact hg.noObject b hb
    obtain ⟨v, rfl, hv⟩ := value_of_head hhead hlist hobject depth
    exact ⟨v, hv, hb⟩
  · rintro ⟨v, hv, hb⟩
    refine ⟨v.head, head_of_value hv (fun hlist => ?_) fun hobject => ?_, hb⟩
    · rw [hlist] at hb
      exact hg.noList b hb
    · rw [hobject] at hb
      exact hg.noObject b hb

theorem Shallow.lawful (hd : d.Shallow) : d.Lawful where
  takes := by
    obtain ⟨g, hg⟩ := hd
    refine takes_head.andThen fun h => ?_
    rw [hg.read_eq]
    exact takes_ofResult _
  skips := by
    intro s b t h
    obtain ⟨v, hv, -⟩ := (hd.reader_eq_ok 0).mp h
    exact skip_of_value hv

theorem shallow_scalar {f : Head → Except Error β} (hlist : ∀ b, f .list ≠ .ok b)
    (hobject : ∀ b, f .object ≠ .ok b) : (scalar f).Shallow :=
  ⟨f, hlist, hobject, fun _ => rfl, fun _ => rfl⟩

theorem shallow_text : text.Shallow := shallow_scalar (by simp) (by simp)

theorem shallow_flag : flag.Shallow := shallow_scalar (by simp) (by simp)

theorem shallow_single : single.Shallow := shallow_scalar (by simp) (by simp)

theorem shallow_variant (names : List (String × β)) : (variant names).Shallow :=
  shallow_scalar (by simp) (by simp)

theorem map_ofResult (f : β → γ) (x : Except Error β) :
    f <$> (ofResult x : Reader β) = ofResult (f <$> x) := by
  cases x <;> rfl

theorem map_ne_ok {f : β → γ} {x : Except Error β} (hx : ∀ b, x ≠ .ok b) (c : γ) :
    f <$> x ≠ .ok c := by
  cases x with
  | error e =>
    intro h
    cases h
  | ok b => exact absurd rfl (hx b)

theorem Shallow.map (hd : d.Shallow) (f : β → γ) : (d.map f).Shallow := by
  obtain ⟨g, hg⟩ := hd
  refine ⟨fun h => f <$> g h, map_ne_ok hg.noList, map_ne_ok hg.noObject, fun h => ?_, fun v => ?_⟩
  · change f <$> d.read h = _
    rw [hg.read_eq, map_ofResult]
  · change f <$> d.take v = _
    rw [hg.take_eq]

/-- What a beginning tells where `null` stands for nothing. -/
def nullable (g : Head → Except Error β) : Head → Except Error (Option β)
  | .null => .ok none
  | h => some <$> g h

theorem Shallow.optional (hd : d.Shallow) : (Decoder.optional d).Shallow := by
  obtain ⟨g, hg⟩ := hd
  refine ⟨nullable g, map_ne_ok hg.noList, map_ne_ok hg.noObject, fun h => ?_, fun v => ?_⟩
  · cases h with
    | null => rfl
    | _ =>
      change some <$> d.read _ = _
      rw [hg.read_eq, map_ofResult]
      rfl
  · cases v with
    | null => rfl
    | _ =>
      change some <$> d.take _ = _
      rw [hg.take_eq]
      rfl

end Decoder

/-! ## 4. Records -/

/-- The update of every field accepts scalars only. -/
def RecordShape.Shallow (shape : RecordShape α) : Prop := ∀ f ∈ shape.fields, f.update.Shallow

theorem Field.shallow_of {d : Decoder β} (hd : d.Shallow) (name : String) (aliases : List String)
    (set : α → β → α) : (Field.of name aliases d set).update.Shallow :=
  hd.map _

namespace RecordShape

variable {shape : RecordShape α} {s t : List Char}

/-- What a member does to a record. -/
def body (shape : RecordShape α) (key : String) (p : Partial α) : Reader (Partial α) :=
  match shape.field? key with
  | none => do
    colon
    skip
    pure p
  | some f => do
    ofResult (p.check f)
    colon
    let update ← f.update.reader
    pure (p.put f update)

/-- The reader of a record's members. -/
def objectReader (shape : RecordShape α) : ObjectReader (Partial α) α :=
  ⟨shape.body, fun p => .ok p.record⟩

theorem memberStep_eq (shape : RecordShape α) (st : Bool × Partial α) :
    shape.memberStep st = shape.objectReader.step st := by
  unfold RecordShape.memberStep ObjectReader.step
  refine bind_congr fun more => ?_
  cases more with
  | false => rfl
  | true =>
    refine bind_congr fun key => ?_
    change _ = shape.body key st.2 >>= _
    unfold body
    cases shape.field? key with
    | none => simp only [bind_assoc, pure_bind]
    | some f => simp only [bind_assoc, pure_bind]

theorem readsObjects (shape : RecordShape α) :
    ReadsObjects shape.decoder.reader shape.objectReader ⟨[], shape.blank⟩ := by
  intro s rest htrim
  have hstep : shape.memberStep = shape.objectReader.step := funext shape.memberStep_eq
  have hmembers : shape.decoder.reader s = loop shape.memberStep (true, ⟨[], shape.blank⟩) rest :=
    bind_apply (head_of_object htrim)
  rw [hmembers, hstep]
  rfl

theorem body_none {key : String} (hfield : shape.field? key = none) {p q : Partial α} :
    shape.body key p s = .ok (q, t) ↔ (do colon; skip) s = .ok ((), t) ∧ p = q := by
  unfold body
  rw [hfield]
  simp only [bind_eq_ok, pure_eq_ok]
  constructor
  · rintro ⟨_, u, hcolon, _, v, hskip, rfl, rfl⟩
    exact ⟨⟨(), u, hcolon, hskip⟩, rfl⟩
  · rintro ⟨⟨_, u, hcolon, hskip⟩, rfl⟩
    exact ⟨(), u, hcolon, (), t, hskip, rfl, rfl⟩

theorem body_some {key : String} {f : Field α} (hfield : shape.field? key = some f)
    {p q : Partial α} :
    shape.body key p s = .ok (q, t) ↔ p.check f = .ok () ∧ ∃ u, colon s = .ok ((), u) ∧
      ∃ update, f.update.reader u = .ok (update, t) ∧ q = p.put f update := by
  unfold body
  rw [hfield]
  simp only [bind_eq_ok, pure_eq_ok, ofResult_eq_ok]
  constructor
  · rintro ⟨_, v, ⟨hcheck, rfl⟩, _, u, hcolon, update, u', hread, rfl, rfl⟩
    exact ⟨hcheck, u, hcolon, update, hread, rfl⟩
  · rintro ⟨hcheck, u, hcolon, update, hread, rfl⟩
    exact ⟨(), s, ⟨hcheck, rfl⟩, (), u, hcolon, update, t, hread, rfl, rfl⟩

theorem mem_of_field? {key : String} {f : Field α} (h : shape.field? key = some f) :
    f ∈ shape.fields := List.mem_of_find?_eq_some h

theorem lawful (hfields : ∀ f ∈ shape.fields, f.update.Lawful) : shape.objectReader.Lawful where
  takes := by
    intro key p
    change Takes 1 (shape.body key p)
    unfold body
    cases hfield : shape.field? key with
    | none =>
      exact takes_colon.andThen fun _ =>
        (takes_skip.andThen fun _ => takes_pure _).mono (Nat.zero_le 1)
    | some f =>
      have hf := hfields f (mem_of_field? hfield)
      exact (takes_ofResult _).after fun _ => takes_colon.andThen fun _ =>
        (hf.takes.andThen fun _ => takes_pure _).mono (by omega)
  skips := by
    intro key p s q t h
    cases hfield : shape.field? key with
    | none => exact ((body_none hfield).mp h).1
    | some f =>
      have hf := hfields f (mem_of_field? hfield)
      obtain ⟨-, u, hcolon, update, hread, -⟩ := (body_some hfield).mp h
      exact bind_eq_ok.mpr ⟨(), u, hcolon, hf.skips u update t hread⟩

theorem Shallow.lawful (h : shape.Shallow) : shape.objectReader.Lawful :=
  RecordShape.lawful fun f hf => (h f hf).lawful

end RecordShape

end SoundEngine.Json
