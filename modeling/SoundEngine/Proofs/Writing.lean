import SoundEngine.Proofs.Documents

/-!
# What is written can be read

A written document has no blanks and its members stand in a fixed order, so of all the texts of a value
it is the simplest one to read.  The real question is the text of a string, which may hold any
characters: each of them is written so that one turn of the reader gives it back (`textStep_escape`).
Numbers are not settled here; what is said of them takes their reading back as given.

* §1 is about texts, §2 about scalars, §3 about members and those that are left out when they are not
  set.
-/

namespace SoundEngine.Json

open Reader

variable {α β : Type}

/-! ## 1. Texts -/

/-- The two digits of a control character. -/
theorem hexDigits_control : ∀ n < 0x20, hexDigit? (Nat.digitChar (n / 16)) = some (n / 16) ∧
    hexDigit? (Nat.digitChar (n % 16)) = some (n % 16) ∧ (Nat.digitChar (n / 16)).utf8Size = 1 ∧
    (Nat.digitChar (n % 16)).utf8Size = 1 := by
  decide

theorem fourDigits_control {n : Nat} (hn : n < 0x20) (s : List Char) :
    fourDigits ('0' :: '0' :: Nat.digitChar (n / 16) :: Nat.digitChar (n % 16) :: s) = .ok (n, s) := by
  obtain ⟨hhigh, hlow, hhigh', hlow'⟩ := hexDigits_control n hn
  have hzero : hexDigit? '0' = some 0 := rfl
  have hsize : '0'.utf8Size = 1 := rfl
  have hn' : n / 16 * 16 + n % 16 = n := by omega
  unfold fourDigits
  simp [hhigh, hlow, hhigh', hlow', hzero, hsize]
  omega

theorem escaped_control {c : Char} (hc : c.toNat < 0x20) (s : List Char) :
    escaped ('u' :: '0' :: '0' :: Nat.digitChar (c.toNat / 16) :: Nat.digitChar (c.toNat % 16) :: s) =
      .ok (c, s) := by
  have hunicode : unicodeEscape ('0' :: '0' :: Nat.digitChar (c.toNat / 16) ::
      Nat.digitChar (c.toNat % 16) :: s) = .ok (c, s) := by
    refine bind_eq_ok.mpr ⟨c.toNat, s, fourDigits_control hc s, ?_⟩
    rw [if_neg (by omega), if_pos (by omega), Char.ofNat_toNat]
    rfl
  exact hunicode

/-- **A character is written so that it is read in one turn.** -/
theorem textStep_escape (read : List Char) (c : Char) (s : List Char) :
    textStep read (escape c ++ s) = .ok (.inl (c :: read), s) := by
  unfold escape
  split_ifs with h₁ h₂ h₃ h₄ h₅ h₆ h₇ h₈
  · subst h₁
    rfl
  · subst h₂
    rfl
  · subst h₃
    rfl
  · subst h₄
    rfl
  · subst h₅
    rfl
  · subst h₆
    rfl
  · subst h₇
    rfl
  · have hslash : '\\' ≠ '"' := by decide
    simp only [List.cons_append, List.nil_append, textStep, hslash, if_false, if_true,
      escaped_control h₈]
  · simp only [List.cons_append, List.nil_append, textStep, h₁, h₂, h₈, if_false]

/-- **Every text is read back**, whatever its characters are. -/
theorem text_written (cs t : List Char) :
    text (cs.flatMap escape ++ '"' :: t) = .ok (String.ofList cs, t) := by
  have hloop : ∀ read, loop textStep read (cs.flatMap escape ++ '"' :: t) =
      .ok (String.ofList (read.reverse ++ cs), t) := by
    induction cs with
    | nil =>
      intro read
      refine (loop_eq_ok takes_textStep).mpr (.inr ?_)
      simp [textStep]
    | cons c cs ih =>
      intro read
      refine (loop_eq_ok takes_textStep).mpr (.inl ⟨c :: read, cs.flatMap escape ++ '"' :: t, ?_, ?_⟩)
      · rw [List.flatMap_cons, List.append_assoc]
        exact textStep_escape read c _
      · rw [ih (c :: read)]
        simp
  exact hloop []

/-! ## 2. Scalars -/

theorem head_writeText (s : String) (t : List Char) :
    head (writeText s ++ t) = .ok (.text s, t) := by
  have htext : text (s.toList.flatMap escape ++ '"' :: t) = .ok (s, t) := by
    rw [text_written, String.ofList_toList]
  have hsplit : writeText s ++ t = '"' :: (s.toList.flatMap escape ++ '"' :: t) := by
    simp [writeText]
  rw [hsplit]
  exact map_eq_ok.mpr ⟨s, htext, rfl⟩

namespace Decoder

variable {d : Decoder β} {s t : List Char} {b : β}

theorem read_text (s : String) : text.reader (writeText s) = .ok (s, []) := by
  have hhead := head_writeText s []
  rw [List.append_nil] at hhead
  exact bind_eq_ok.mpr ⟨.text s, [], hhead, rfl⟩

theorem read_flag (b : Bool) : flag.reader (writeFlag b) = .ok (b, []) := by
  cases b <;> rfl

/-- A number that can be read back from its written form.  It is read as a 64-bit number first and rounded
once more, so that this is not plain even of a form that identifies the number. -/
def ReadsBack (x : Single) : Prop := single.reader (writeSingle x) = .ok (x, [])

theorem reader_map {γ : Type} (h : d.reader s = .ok (b, t)) (f : β → γ) :
    (d.map f).reader s = .ok (f b, t) := by
  obtain ⟨hd, u, hhead, hread⟩ := bind_eq_ok.mp h
  exact bind_eq_ok.mpr ⟨hd, u, hhead, map_eq_ok.mpr ⟨b, hread, rfl⟩⟩

/-- What is not `null` is read as if it had to be there. -/
theorem optional_reader (hnull : ∀ u x, d.read .null u ≠ .ok x) (h : d.reader s = .ok (b, t)) :
    (optional d).reader s = .ok (some b, t) := by
  obtain ⟨hd, u, hhead, hread⟩ := bind_eq_ok.mp h
  refine bind_eq_ok.mpr ⟨hd, u, hhead, ?_⟩
  cases hd with
  | null => exact absurd hread (hnull u (b, t))
  | _ => exact map_eq_ok.mpr ⟨b, hread, rfl⟩

theorem optional_null : (optional d).reader "null".toList = .ok (none, []) := by
  refine bind_eq_ok.mpr ⟨.null, [], ?_, rfl⟩
  rfl

/-- **A number that may be missing** comes back unless it has no written form. -/
theorem optional_single {x : Single} (h : x.isFinite = true → ReadsBack x) :
    (optional single).reader (writeSingle x) = .ok ((some x).filter (·.isFinite), []) := by
  cases hx : x.isFinite with
  | true =>
    have hread : single.reader (writeSingle x) = .ok (x, []) := h hx
    have hsome : (some x).filter (·.isFinite) = some x := Option.filter_some_pos hx
    rw [hsome]
    refine optional_reader (fun u y hy => ?_) hread
    cases hy
  | false =>
    have hnone : (some x).filter (·.isFinite) = none := Option.filter_some_neg (by simp [hx])
    have hnull : writeSingle x = "null".toList := by
      unfold writeSingle
      rw [hx]
      rfl
    rw [hnone, hnull]
    exact optional_null

theorem optional_flag (b : Bool) : (optional flag).reader (writeFlag b) = .ok (some b, []) := by
  refine optional_reader (fun u y hy => ?_) (read_flag b)
  cases hy

end Decoder

/-! ## 3. Members -/

section Written

variable {σ : Type} {o : ObjectReader σ α} {shape : RecordShape α} {key : String}
  {value : List Char}

/-- The key of a written member. -/
theorem writeMember_key (key : String) (value : List Char) :
    ∃ u, passKeySign (writeMember key value) = .ok ((), u) ∧ text u = .ok (key, ':' :: value) := by
  have hsplit : writeMember key value =
      '"' :: (key.toList.flatMap escape ++ '"' :: ':' :: value) := by
    simp [writeMember, writeText]
  refine ⟨key.toList.flatMap escape ++ '"' :: ':' :: value, ?_, ?_⟩
  · rw [hsplit]
    exact passKeySign_eq_ok.mpr (trimmed_cons (by decide) _)
  · rw [text_written, String.ofList_toList]

/-- A written member is read by its key and its written value. -/
theorem whole_writeMember {a b : σ} (h : o.body key a (':' :: value) = .ok (b, [])) :
    Whole (o.member a) (writeMember key value) b := by
  obtain ⟨u, hsign, hkey⟩ := writeMember_key key value
  exact ⟨[], blank_nil, ObjectReader.member_eq_ok.mpr ⟨u, key, _, hsign, hkey, h⟩⟩

/-- A written member has the key it was written with. -/
theorem isMember_writeMember {d : Decoder β} (hd : d.Lawful) {b : β}
    (h : d.reader value = .ok (b, [])) : IsMember key (writeMember key value) := by
  obtain ⟨u, hsign, hkey⟩ := writeMember_key key value
  exact isMember_iff.mpr ⟨u, ':' :: value, [], hsign, hkey,
    bind_eq_ok.mpr ⟨(), value, rfl, hd.skips value b [] h⟩, blank_nil⟩

theorem mem_writeOptional {write : β → List Char} {x : Option β} {m : List Char} :
    m ∈ writeOptional key write x ↔ ∃ b, x = some b ∧ m = writeMember key (write b) := by
  cases x with
  | none => simp [writeOptional]
  | some b => simp [writeOptional]

/-- A field that has not come yet is read from its written value. -/
theorem whole_writeField {f : Field α} (hfield : shape.field? key = some f)
    {p : RecordShape.Partial α} (hnew : f.name ∉ p.given) {update : α → α}
    (h : f.update.reader value = .ok (update, [])) :
    Whole (shape.objectReader.member p) (writeMember key value) (p.put f update) := by
  refine whole_writeMember ((RecordShape.body_some hfield).mpr ⟨?_, value, ?_, update, h, rfl⟩)
  · have hcontains : ¬ p.given.contains f.name = true := by simpa using hnew
    exact if_neg hcontains
  · rfl

/-- A field that may be missing. -/
theorem reads_writeOptional {f : Field α} (hfield : shape.field? key = some f)
    {p : RecordShape.Partial α} (hnew : f.name ∉ p.given) {write : β → List Char} {x : Option β}
    {update : β → α → α}
    (h : ∀ b, x = some b → f.update.reader (write b) = .ok (update b, [])) :
    ∃ q, shape.objectReader.Reads (writeOptional key write x) p q ∧
      q.record = x.elim p.record (fun b => update b p.record) ∧
      ∀ name, name ∉ p.given → name ≠ f.name → name ∉ q.given := by
  cases x with
  | none => exact ⟨p, .nil p, rfl, fun name hname _ => hname⟩
  | some b =>
    refine ⟨p.put f (update b), .cons (whole_writeField hfield hnew (h b rfl)) (.nil _), rfl, ?_⟩
    intro name hname hne hmem
    rcases List.mem_cons.mp hmem with heq | hmem
    · exact hne heq
    · exact hname hmem

end Written

end SoundEngine.Json
