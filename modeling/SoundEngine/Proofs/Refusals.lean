import SoundEngine.Proofs.Sayings
import SoundEngine.Proofs.Writing

/-!
# The first refusal is the one that is told

A reader goes through an object from the left to the right.  If it can make nothing of the value of some
member, after members that it has read, then this is why the object is refused, whatever comes behind:
no later member is looked at, and nothing takes the place of the value (`ObjectReader.read_refused`).

What the member is refused for must not depend on the text behind it, which is what
`ObjectReader.Refuses` asks.
-/

namespace SoundEngine.Json

open Reader

variable {α β σ : Type}

/-! ## 1. Steps that fail -/

section Parts

variable {r : Reader α} {f : α → Reader β} {s : List Char} {e : Error}

theorem bind_refused (h : r s = .error e) : (r >>= f) s = .error e := by
  simp only [bind, StateT.bind, Except.bind, h]

theorem run_refused {text : String} (h : r text.toList = .error e) : run r text = .error e := by
  unfold run
  rw [h]

/-- What is made of a value cannot be made if there is none. -/
theorem Decoder.map_refused {d : Decoder α} (h : d.reader s = .error e) (f : α → β) :
    (d.map f).reader s = .error e := by
  rw [Decoder.map_reader, map_apply, h]

end Parts

/-! ## 2. Objects -/

namespace ObjectReader

variable {o : ObjectReader σ α} {a b : σ} {s t u v w m : List Char} {ms ms' : List (List Char)}
  {key : String} {e : Error} {first : Bool}

/-- The value of the member is refused, whatever follows the member. -/
def Refuses (o : ObjectReader σ α) (a : σ) (m : List Char) (e : Error) : Prop :=
  ∀ rest, Alike [] rest → ∃ u key v, passKeySign (m ++ rest) = .ok ((), u) ∧
    text u = .ok (key, v) ∧ o.body key a v = .error e

theorem step_refused (hnext : nextMember first s = .ok (true, u)) (hkey : text u = .ok (key, v))
    (hbody : o.body key a v = .error e) : o.step (first, a) s = .error e := by
  have hmember : (do
      let key ← text
      let b ← o.body key a
      pure (.inl (false, b)) : Reader ((Bool × σ) ⊕ α)) u = .error e :=
    (bind_apply hkey).trans (bind_refused hbody)
  exact (bind_apply hnext).trans hmember

theorem loop_refused (ho : o.Lawful) {st : Bool × σ} (h : o.step st s = .error e) :
    loop o.step st s = .error e := by
  rw [loop_eq (progresses (takes_step ho)), h]

theorem loop_turn (ho : o.Lawful) {st st' : Bool × σ} (h : o.step st s = .ok (.inl st', t)) :
    loop o.step st s = loop o.step st' t := by
  rw [loop_eq (progresses (takes_step ho)), h]

/-- What follows a member, with the blanks before it. -/
theorem trimmed_followers (hw : Blank w) (m : List Char) (ms : List (List Char)) (t : List Char) :
    trimmed (w ++ (followers (m :: ms) ++ '\x7d' :: t)) =
      ',' :: (m ++ (followers ms ++ '\x7d' :: t)) := by
  have hsplit : followers (m :: ms) ++ '\x7d' :: t = ',' :: (m ++ (followers ms ++ '\x7d' :: t)) := by
    change ',' :: (m ++ followers ms) ++ '\x7d' :: t = _
    rw [List.cons_append, List.append_assoc]
  rw [trimmed_append hw, hsplit]
  exact trimmed_cons (by decide) _

/-- A member that is refused after others that were read. -/
theorem loop_followers_refused (ho : o.Lawful) (hreads : o.Reads ms a b) (hm : o.Refuses b m e)
    (hw : Blank w) :
    loop o.step (false, a) (w ++ (followers (ms ++ m :: ms') ++ '\x7d' :: t)) = .error e := by
  induction hreads generalizing w with
  | nil a =>
    obtain ⟨u, key, v, hsign, hkey, hbody⟩ := hm _ (alike_followers ms' t)
    have hnext := nextMember_next.mpr ⟨_, trimmed_followers hw m ms' t, hsign⟩
    exact loop_refused ho (step_refused hnext hkey hbody)
  | @cons m₀ ms a b c h _ ih =>
    obtain ⟨w₀, hw₀, hread⟩ := h
    have hmember := whole_append (takes_member ho a) hread (alike_followers (ms ++ m :: ms') t)
    have hturn : o.step (false, a) (w ++ (followers (m₀ :: (ms ++ m :: ms')) ++ '\x7d' :: t)) =
        .ok (.inl (false, b), w₀ ++ (followers (ms ++ m :: ms') ++ '\x7d' :: t)) :=
      step_next.mpr ⟨_, trimmed_followers hw m₀ _ t, hmember, rfl⟩
    exact (loop_turn ho hturn).trans (ih hm hw₀)

/-- **The first member that is refused decides.** -/
theorem read_refused (ho : o.Lawful) (hreads : o.Reads ms a b) (hm : o.Refuses b m e) :
    o.read a (writeMembers (ms ++ m :: ms') ++ '\x7d' :: t) = .error e := by
  unfold read
  cases hreads with
  | nil =>
    obtain ⟨u, key, v, hsign, hkey, hbody⟩ := hm _ (alike_followers ms' t)
    rw [List.nil_append, writeMembers_cons, List.append_assoc]
    exact loop_refused ho (step_refused (nextMember_first.mpr hsign) hkey hbody)
  | @cons m₀ ms _ b _ h hs =>
    obtain ⟨w₀, hw₀, hread⟩ := h
    have hmember := whole_append (takes_member ho a) hread (alike_followers (ms ++ m :: ms') t)
    rw [List.cons_append, writeMembers_cons, List.append_assoc]
    have hturn : o.step (true, _) (m₀ ++ (followers (ms ++ m :: ms') ++ '\x7d' :: t)) =
        .ok (.inl (false, b), w₀ ++ (followers (ms ++ m :: ms') ++ '\x7d' :: t)) :=
      step_first.mpr ⟨hmember, rfl⟩
    exact (loop_turn ho hturn).trans (loop_followers_refused ho hs hm hw₀)

end ObjectReader

/-! ## 3. Written members and objects -/

section Written

variable {shape : RecordShape α} {key : String} {value : List Char} {e : Error}

/-- A value that its field refuses. -/
theorem refuses_writeField {f : Field α} (hfield : shape.field? key = some f)
    {p : RecordShape.Partial α} (hnew : f.name ∉ p.given)
    (h : ∀ rest, Alike [] rest → f.update.reader (value ++ rest) = .error e) :
    shape.objectReader.Refuses p (writeMember key value) e := by
  intro rest hrest
  have hsplit : writeMember key value ++ rest =
      '"' :: (key.toList.flatMap escape ++ '"' :: ':' :: (value ++ rest)) := by
    simp [writeMember, writeText]
  have hcheck : p.check f = .ok () := if_neg (by simpa using hnew)
  have hkey : text (key.toList.flatMap escape ++ '"' :: ':' :: (value ++ rest)) =
      .ok (key, ':' :: (value ++ rest)) := by
    rw [text_written, String.ofList_toList]
  have hcolon : colon (':' :: (value ++ rest)) = .ok ((), value ++ rest) := rfl
  have hbody : shape.body key p (':' :: (value ++ rest)) = .error e := by
    unfold RecordShape.body
    rw [hfield]
    dsimp only
    rw [hcheck]
    exact (bind_apply rfl).trans ((bind_apply hcolon).trans (bind_refused (h rest hrest)))
  exact ⟨_, key, _, by rw [hsplit]; exact passKeySign_eq_ok.mpr (trimmed_cons (by decide) _),
    hkey, hbody⟩

/-- **A written object is refused for the first of its members that is refused**, wherever it
stands. -/
theorem writeObject_refused (hshape : shape.objectReader.Lawful) {ms : List (List Char)}
    {m : List Char} {p : RecordShape.Partial α}
    (hreads : shape.objectReader.Reads ms ⟨[], shape.blank⟩ p)
    (hm : shape.objectReader.Refuses p m e) (ms' : List (List Char)) (rest : List Char) :
    shape.decoder.reader (writeObject (ms ++ m :: ms') ++ rest) = .error e := by
  have hsplit : writeObject (ms ++ m :: ms') ++ rest =
      '\x7b' :: (writeMembers (ms ++ m :: ms') ++ '\x7d' :: rest) := by
    simp [writeObject]
  rw [hsplit, shape.readsObjects _ _ (trimmed_cons (by decide) _)]
  exact ObjectReader.read_refused hshape hreads hm

/-- A written object is read by reading its members, wherever it stands. -/
theorem writeObject_read (hshape : shape.objectReader.Lawful) {ms : List (List Char)}
    {q : RecordShape.Partial α} (hreads : shape.objectReader.Reads ms ⟨[], shape.blank⟩ q)
    (rest : List Char) : shape.decoder.reader (writeObject ms ++ rest) = .ok (q.record, rest) := by
  have hsplit : writeObject ms ++ rest = '\x7b' :: ([] ++ (writeMembers ms ++ '\x7d' :: rest)) := by
    simp [writeObject]
  rw [hsplit, shape.readsObjects _ _ (trimmed_cons (by decide) _)]
  exact (ObjectReader.read_eq_ok hshape blank_nil
    (ObjectReader.members_of_reads hshape hreads)).mpr ⟨rfl, q, hreads, rfl⟩

end Written

end SoundEngine.Json
