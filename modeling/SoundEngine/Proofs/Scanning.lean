import SoundEngine.Proofs.Lexemes

/-!
# Where a value ends

Every reader of a value takes a piece of the text (`Takes`).  A value that is kept and one that is
ignored are read by different readers: one of them keeps what it reads and limits the nesting, the other
one looks at the shape only.  But where the first accepts a value both take the same piece
(`skip_of_value`), so it does not matter to the rest of a document which one was at work.

* §1 has the rules for values, §2 those for ignored ones.  How deep an ignored value may be nested is told
  by the length of the text, so it is shown first that a shorter text will do (`passWithin_enough`).
* §3 puts the two together.  Their loops go on side by side, an item or a member at each turn.
-/

namespace SoundEngine.Json

open Reader

variable {α β : Type}

/-! ## 1. Values -/

section Values

variable {s t : List Char} {h : Head}

/-- What the text of a value begins with. -/
inductive Begins : List Char → Head → List Char → Prop
  | text {s rest : List Char} {t : String} (h : text s = .ok (t, rest)) :
    Begins ('"' :: s) (.text t) rest
  | list (s : List Char) : Begins ('[' :: s) .list s
  | object (s : List Char) : Begins ('\x7b' :: s) .object s
  | negative {s rest : List Char} {n : Number} (h : numeral true s = .ok (n, rest)) :
    Begins ('-' :: s) (.number n) rest
  | number {c : Char} {s rest : List Char} {n : Number} (hc : c.isDigit = true)
    (h : numeral false (c :: s) = .ok (n, rest)) : Begins (c :: s) (.number n) rest
  | null {s rest : List Char} (h : word "ull".toList s = .ok ((), rest)) :
    Begins ('n' :: s) .null rest
  | yes {s rest : List Char} (h : word "rue".toList s = .ok ((), rest)) :
    Begins ('t' :: s) (.flag true) rest
  | no {s rest : List Char} (h : word "alse".toList s = .ok ((), rest)) :
    Begins ('f' :: s) (.flag false) rest

theorem begins_of_head (hs : head s = .ok (h, t)) : Begins (trimmed s) h t := by
  unfold head at hs
  cases htrim : trimmed s with
  | nil =>
    rw [htrim] at hs
    cases hs
  | cons c rest =>
    rw [htrim] at hs
    dsimp only at hs
    -- one character decides, in the order in which the reader looks
    split at hs
    · next hc =>
      obtain ⟨a, ha, rfl⟩ := map_eq_ok.mp hs
      exact hc ▸ .text ha
    split at hs
    · next hc =>
      cases hs
      exact hc ▸ .list t
    split at hs
    · next hc =>
      cases hs
      exact hc ▸ .object t
    split at hs
    · next hc =>
      obtain ⟨a, ha, rfl⟩ := map_eq_ok.mp hs
      exact hc ▸ .negative ha
    split at hs
    · next hc =>
      obtain ⟨a, ha, rfl⟩ := map_eq_ok.mp hs
      exact .number hc ha
    split at hs
    · next hc =>
      obtain ⟨a, ha, rfl⟩ := map_eq_ok.mp hs
      exact hc ▸ .null ha
    split at hs
    · next hc =>
      obtain ⟨a, ha, rfl⟩ := map_eq_ok.mp hs
      exact hc ▸ .yes ha
    split at hs
    · next hc =>
      obtain ⟨a, ha, rfl⟩ := map_eq_ok.mp hs
      exact hc ▸ .no ha
    · cases hs

theorem takes_head : Takes 1 head := by
  refine takes_afterBlanks fun c => ?_
  refine Takes.iteAt (fun _ => (takes_text.map _).mono (Nat.zero_le 1)) fun _ => ?_
  refine Takes.iteAt (fun _ => takes_pure _) fun _ => ?_
  refine Takes.iteAt (fun _ => takes_pure _) fun _ => ?_
  refine Takes.iteAt (fun _ => ((takes_numeral true).map _).mono (Nat.zero_le 1)) fun _ => ?_
  refine Takes.iteAt (fun _ => ((takes_numeral false).map _).back c) fun _ => ?_
  refine Takes.iteAt (fun _ => (takes_word _).map _) fun _ => ?_
  refine Takes.iteAt (fun _ => (takes_word _).map _) fun _ => ?_
  exact Takes.iteAt (fun _ => (takes_word _).map _) fun _ => takes_fail _

theorem takes_itemStep {item : Reader Value} (hitem : Takes 1 item) (before : ItemsRead) :
    Takes 1 (itemStep item before) := by
  refine takes_nextItem (Takes.ite (fun _ => ?_) fun hno => absurd rfl hno)
    (Takes.ite (fun hyes => absurd hyes Bool.false_ne_true) fun _ => takes_pure _)
  exact hitem.andThen fun _ => takes_pure _

/-- The end of a list. -/
theorem itemStep_end {item : Reader Value} {first : Bool} {acc vs : List Value} :
    itemStep item (first, acc) s = .ok (.inr vs, t) ↔
      nextItem first s = .ok (false, t) ∧ vs = acc.reverse := by
  unfold itemStep
  rw [bind_eq_ok]
  constructor
  · rintro ⟨more, u, hnext, h⟩
    cases more with
    | false =>
      cases h
      exact ⟨hnext, rfl⟩
    | true =>
      obtain ⟨v, u', -, h⟩ := bind_eq_ok.mp h
      cases h
  · rintro ⟨hnext, rfl⟩
    exact ⟨false, t, hnext, rfl⟩

/-- Another item. -/
theorem itemStep_next {item : Reader Value} {first : Bool} {acc : List Value} {before : ItemsRead} :
    itemStep item (first, acc) s = .ok (.inl before, t) ↔
      ∃ u, nextItem first s = .ok (true, u) ∧
        ∃ v, item u = .ok (v, t) ∧ before = (false, v :: acc) := by
  unfold itemStep
  rw [bind_eq_ok]
  constructor
  · rintro ⟨more, u, hnext, h⟩
    cases more with
    | false => cases h
    | true =>
      obtain ⟨v, u', hitem, h⟩ := bind_eq_ok.mp h
      cases h
      exact ⟨u, hnext, v, hitem, rfl⟩
  · rintro ⟨u, hnext, v, hitem, rfl⟩
    exact ⟨true, u, hnext, bind_eq_ok.mpr ⟨v, t, hitem, rfl⟩⟩

theorem takes_items {item : Reader Value} (hitem : Takes 1 item) (first : Bool) :
    Takes 1 (items first item) := Takes.loop (takes_itemStep hitem) _

theorem takes_memberStep {item : Reader Value} (hitem : Takes 1 item)
    (before : List (String × Value)) : Takes 1 (memberStep item before) := by
  refine takes_nextMember.andThen fun _ => Takes.ite (fun _ => ?_) fun _ => takes_pure _
  have hmember := takes_text.bind fun key => takes_colon.bind fun _ => hitem.bind fun v =>
    takes_pure (Sum.inl ((key, v) :: before) : List (String × Value) ⊕ List (String × Value))
  exact hmember.mono (Nat.zero_le _)

/-- **A value takes a piece of the text.** -/
theorem takes_value (depth : Nat) : Takes 1 (value depth) := by
  induction depth with
  | zero =>
    refine takes_head.andThen fun h => ?_
    cases h <;> first | exact takes_pure _ | exact takes_fail _
  | succ depth ih =>
    refine takes_head.andThen fun h => ?_
    cases h with
    | list => exact ((takes_items ih true).map _).mono (Nat.zero_le 1)
    | object => exact ((Takes.loop (takes_memberStep ih) []).map _).mono (Nat.zero_le 1)
    | _ => exact takes_pure _

end Values

/-! ## 2. Ignored values -/

section Ignored

variable {s t : List Char} {pass pass' : Reader Unit}

theorem takes_passItemStep (hpass : Takes 1 pass) (first : Bool) :
    Takes 1 (passItemStep pass first) := by
  have hitem : Takes 1 ((fun _ => Sum.inl false) <$> pass : Reader (Bool ⊕ Unit)) := hpass.map _
  refine takes_afterBlanks fun c => Takes.iteAt (fun _ => takes_pure _) fun _ => ?_
  refine Takes.iteAt (fun _ => hitem.back c) fun _ => ?_
  exact Takes.iteAt (fun _ => hitem.mono (Nat.zero_le 1)) fun _ => takes_fail _

theorem takes_passMember (hpass : Takes 1 pass) : Takes 1 (passMember pass) :=
  (takes_passKeySign.bind fun _ => takes_passText.bind fun _ => takes_colon.bind fun _ =>
    hpass).mono (by omega)

theorem takes_passMemberStep (hpass : Takes 1 pass) (first : Bool) :
    Takes 1 (passMemberStep pass first) := by
  have hmember : Takes 1 ((fun _ => Sum.inl false) <$> passMember pass : Reader (Bool ⊕ Unit)) :=
    (takes_passMember hpass).map _
  refine takes_afterBlanks fun c => Takes.iteAt (fun _ => takes_pure _) fun _ => ?_
  refine Takes.iteAt (fun _ => hmember.back c) fun _ => ?_
  exact Takes.iteAt (fun _ => hmember.mono (Nat.zero_le 1)) fun _ => takes_fail _

theorem takes_passWithin (depth : Nat) : Takes 1 (passWithin depth) := by
  induction depth with
  | zero => exact takes_fail _
  | succ depth ih =>
    refine takes_afterBlanks fun c => ?_
    refine Takes.iteAt (fun _ => takes_passText.mono (Nat.zero_le 1)) fun _ => ?_
    refine Takes.iteAt (fun _ => (Takes.loop (takes_passItemStep ih) true).mono (Nat.zero_le 1))
      fun _ => ?_
    refine Takes.iteAt (fun _ => (Takes.loop (takes_passMemberStep ih) true).mono (Nat.zero_le 1))
      fun _ => ?_
    refine Takes.iteAt (fun _ => takes_passNumeral.mono (Nat.zero_le 1)) fun _ => ?_
    refine Takes.iteAt (fun _ => takes_passNumeral.back c) fun _ => ?_
    refine Takes.iteAt (fun _ => takes_word _) fun _ => ?_
    refine Takes.iteAt (fun _ => takes_word _) fun _ => ?_
    exact Takes.iteAt (fun _ => takes_word _) fun _ => takes_fail _

theorem trims_passWithin (depth : Nat) : Trims (passWithin depth) := by
  cases depth with
  | zero => exact fun _ => rfl
  | succ depth => exact trims_afterBlanks

/-- The one ignores whatever the other one ignores, in texts that are shorter than `limit`. -/
def PassesBelow (limit : Nat) (pass pass' : Reader Unit) : Prop :=
  ∀ s x, s.length < limit → pass s = .ok x → pass' s = .ok x

theorem PassesBelow.map {limit : Nat} (h : PassesBelow limit pass pass') (f : Unit → α)
    {x : α × List Char} (hlen : s.length < limit) (hx : (f <$> pass) s = .ok x) :
    (f <$> pass') s = .ok x := by
  obtain ⟨a, t⟩ := x
  obtain ⟨u, hpass, rfl⟩ := map_eq_ok.mp hx
  exact map_eq_ok.mpr ⟨u, h s (u, t) hlen hpass, rfl⟩

theorem PassesBelow.passMember {limit : Nat} (h : PassesBelow limit pass pass') :
    PassesBelow limit (passMember pass) (passMember pass') := by
  intro s x hlen hx
  obtain ⟨a, t⟩ := x
  obtain ⟨_, s₁, hsign, hx⟩ := bind_eq_ok.mp hx
  obtain ⟨_, s₂, hkey, hx⟩ := bind_eq_ok.mp hx
  obtain ⟨_, s₃, hcolon, hx⟩ := bind_eq_ok.mp hx
  have h₁ := takes_passKeySign.length_le hsign
  have h₂ := takes_passText.length_le hkey
  have h₃ := takes_colon.length_le hcolon
  refine bind_eq_ok.mpr ⟨(), s₁, hsign, bind_eq_ok.mpr ⟨(), s₂, hkey, bind_eq_ok.mpr
    ⟨(), s₃, hcolon, h s₃ (a, t) (by omega) hx⟩⟩⟩

theorem length_trimmed_le (s : List Char) : (trimmed s).length ≤ s.length :=
  List.length_dropWhile_le isBlank s

theorem PassesBelow.itemStep {limit : Nat} (h : PassesBelow limit pass pass') {first : Bool}
    (hlen : s.length < limit) {x : (Bool ⊕ Unit) × List Char}
    (hx : passItemStep pass first s = .ok x) : passItemStep pass' first s = .ok x := by
  have htrimmed := length_trimmed_le s
  unfold passItemStep at hx ⊢
  cases htrim : trimmed s with
  | nil =>
    rw [htrim] at hx
    cases hx
  | cons c rest =>
    rw [htrim] at hx htrimmed
    rw [List.length_cons] at htrimmed
    dsimp only at hx ⊢
    split_ifs at hx ⊢
    · exact hx
    · exact h.map _ (by rw [List.length_cons]; omega) hx
    · exact h.map _ (by omega) hx

theorem PassesBelow.memberStep {limit : Nat} (h : PassesBelow limit pass pass') {first : Bool}
    (hlen : s.length < limit) {x : (Bool ⊕ Unit) × List Char}
    (hx : passMemberStep pass first s = .ok x) : passMemberStep pass' first s = .ok x := by
  have htrimmed := length_trimmed_le s
  unfold passMemberStep at hx ⊢
  cases htrim : trimmed s with
  | nil =>
    rw [htrim] at hx
    cases hx
  | cons c rest =>
    rw [htrim] at hx htrimmed
    rw [List.length_cons] at htrimmed
    dsimp only at hx ⊢
    split_ifs at hx ⊢
    · exact hx
    · exact h.passMember.map _ (by rw [List.length_cons]; omega) hx
    · exact h.passMember.map _ (by omega) hx

/-- A loop that ignores does so with another reader for its parts. -/
theorem loop_below {step step' : Bool → Reader (Bool ⊕ Unit)} (hstep : ∀ first, Takes 1 (step first))
    {limit : Nat} (h : ∀ first s x, s.length < limit → step first s = .ok x →
      step' first s = .ok x) {first : Bool} (hlen : s.length < limit)
    (hs : loop step first s = .ok ((), t)) : loop step' first s = .ok ((), t) := by
  have hsame : ∃ y, loop step' first s = .ok (y, t) ∧ True := by
    refine loop_simulates step' (fun a b s => a = b ∧ s.length < limit) (fun _ _ => True) ?_ ?_
      ⟨rfl, hlen⟩ hs
    · rintro a _ s a' rest ⟨rfl, hlen⟩ hturn
      have hshort := (hstep a).length_le hturn
      exact ⟨a', h a s _ hlen hturn, rfl, by omega⟩
    · rintro a _ s x rest ⟨rfl, hlen⟩ hturn
      exact ⟨x, h a s _ hlen hturn, trivial⟩
  obtain ⟨_, hloop, -⟩ := hsame
  exact hloop

/-- **A depth as great as the text is long is enough.** -/
theorem passWithin_enough {depth depth' : Nat} {x : Unit × List Char}
    (h : passWithin depth s = .ok x) (hlen : s.length < depth') : passWithin depth' s = .ok x := by
  induction depth generalizing depth' s x with
  | zero => cases h
  | succ depth ih =>
  cases depth' with
  | zero => exact absurd hlen (Nat.not_lt_zero _)
  | succ depth' =>
  have hbelow : PassesBelow depth' (passWithin depth) (passWithin depth') :=
    fun s x hlen hx => ih hx hlen
  have htrimmed := length_trimmed_le s
  obtain ⟨_, t⟩ := x
  unfold passWithin at h ⊢
  cases htrim : trimmed s with
  | nil =>
    rw [htrim] at h
    cases h
  | cons c rest =>
    rw [htrim] at h htrimmed
    rw [List.length_cons] at htrimmed
    dsimp only at h ⊢
    split_ifs at h ⊢
    · exact h
    · exact loop_below (takes_passItemStep (takes_passWithin depth))
        (fun first s x hlen hx => hbelow.itemStep hlen hx) (by omega) h
    · exact loop_below (takes_passMemberStep (takes_passWithin depth))
        (fun first s x hlen hx => hbelow.memberStep hlen hx) (by omega) h
    all_goals exact h

/-- What is ignored with any depth is ignored. -/
theorem skip_eq_ok {x : Unit × List Char} :
    skip s = .ok x ↔ ∃ depth, passWithin depth s = .ok x := by
  constructor
  · intro h
    exact ⟨s.length + 1, h⟩
  · rintro ⟨depth, h⟩
    exact passWithin_enough h (Nat.lt_succ_self s.length)

/-- **A value that is ignored takes a piece of the text.** -/
theorem takes_skip : Takes 1 skip := by
  intro s a rest h
  obtain ⟨depth, hdepth⟩ := skip_eq_ok.mp h
  obtain ⟨m, hm, rfl, ht⟩ := takes_passWithin depth s a rest hdepth
  exact ⟨m, hm, rfl, fun t halike => skip_eq_ok.mpr ⟨depth, ht t halike⟩⟩

end Ignored

/-! ## 3. Both together -/

section Together

variable {s t : List Char}

/-- What is no list and no object is followed at any depth. -/
theorem passWithin_of_head {h : Head} (hs : head s = .ok (h, t)) (hlist : h ≠ .list)
    (hobject : h ≠ .object) (depth : Nat) : passWithin (depth + 1) s = .ok ((), t) := by
  have hbegins := begins_of_head hs
  unfold passWithin
  cases htrim : trimmed s with
  | nil =>
    rw [htrim] at hbegins
    cases hbegins
  | cons c rest =>
    rw [htrim] at hbegins
    cases hbegins with
    | text htext => simpa using passText_of_text htext
    | list => exact absurd rfl hlist
    | object => exact absurd rfl hobject
    | negative hnumber =>
      obtain ⟨d, hd, -⟩ := numeral_eq_ok.mp hnumber
      simpa using passNumeral_eq_ok.mpr ⟨d, hd⟩
    | number hc hnumber =>
      obtain ⟨d, hd, -⟩ := numeral_eq_ok.mp hnumber
      have hother : c ≠ '"' ∧ c ≠ '[' ∧ c ≠ '\x7b' ∧ c ≠ '-' := by
        refine ⟨?_, ?_, ?_, ?_⟩ <;> (rintro rfl; cases hc)
      obtain ⟨h₁, h₂, h₃, h₄⟩ := hother
      simpa [h₁, h₂, h₃, h₄, hc] using passNumeral_eq_ok.mpr ⟨d, hd⟩
    | null hword => simpa using hword
    | yes hword => simpa using hword
    | no hword => simpa using hword

theorem trimmed_of_list (hs : head s = .ok (.list, t)) : trimmed s = '[' :: t := by
  have hbegins := begins_of_head hs
  generalize trimmed s = u at hbegins
  cases hbegins
  rfl

theorem trimmed_of_object (hs : head s = .ok (.object, t)) : trimmed s = '\x7b' :: t := by
  have hbegins := begins_of_head hs
  generalize trimmed s = u at hbegins
  cases hbegins
  rfl

theorem head_of_list (hs : trimmed s = '[' :: t) : head s = .ok (.list, t) := by
  unfold head
  rw [hs]
  rfl

theorem head_of_object (hs : trimmed s = '\x7b' :: t) : head s = .ok (.object, t) := by
  unfold head
  rw [hs]
  rfl

/-- Another item is there for both readers. -/
theorem passItemStep_of_nextItem {pass : Reader Unit} (htrims : Trims pass) {first : Bool}
    {u : List Char} (hnext : nextItem first s = .ok (true, u)) (hpass : pass u = .ok ((), t)) :
    passItemStep pass first s = .ok (.inl false, t) := by
  cases first with
  | true =>
    obtain ⟨htrim, c, rest, rfl, hc⟩ := nextItem_first.mp hnext
    unfold passItemStep
    rw [htrim]
    simp only [hc, if_false, if_true]
    exact map_eq_ok.mpr ⟨(), hpass, rfl⟩
  | false =>
    obtain ⟨rest, htrim, hnext'⟩ := nextItem_next.mp hnext
    obtain ⟨rfl, -⟩ := nextItem_first.mp hnext'
    rw [htrims rest] at hpass
    have hcomma : ',' ≠ ']' := by decide
    unfold passItemStep
    rw [htrim]
    simp only [hcomma, if_false, if_true, Bool.false_eq_true]
    exact map_eq_ok.mpr ⟨(), hpass, rfl⟩

theorem passItemStep_of_end {pass : Reader Unit} {first : Bool}
    (hnext : nextItem first s = .ok (false, t)) :
    passItemStep pass first s = .ok (.inr (), t) := by
  unfold passItemStep
  rw [nextItem_no.mp hnext]
  rfl

/-- A member that is read is a member that is ignored. -/
theorem passMember_of_parts {pass : Reader Unit} {key : String} {u v w : List Char}
    (hsign : passKeySign s = .ok ((), u)) (hkey : text u = .ok (key, v))
    (hcolon : colon v = .ok ((), w)) (hpass : pass w = .ok ((), t)) :
    passMember pass s = .ok ((), t) :=
  bind_eq_ok.mpr ⟨(), u, hsign, bind_eq_ok.mpr ⟨(), v, passText_of_text hkey,
    bind_eq_ok.mpr ⟨(), w, hcolon, hpass⟩⟩⟩

theorem trims_passMember (pass : Reader Unit) : Trims (passMember pass) :=
  trims_passKeySign.bind _

/-- Another member is there for both readers. -/
theorem passMemberStep_of_nextMember {pass : Reader Unit} {first : Bool} {key : String}
    {u v w : List Char} (hnext : nextMember first s = .ok (true, u)) (hkey : text u = .ok (key, v))
    (hcolon : colon v = .ok ((), w)) (hpass : pass w = .ok ((), t)) :
    passMemberStep pass first s = .ok (.inl false, t) := by
  cases first with
  | true =>
    have hsign := nextMember_first.mp hnext
    have hmember := passMember_of_parts hsign hkey hcolon hpass
    rw [← trims_passMember pass] at hmember
    rw [passKeySign_eq_ok] at hsign
    rw [hsign] at hmember
    have hquote : '"' ≠ '\x7d' := by decide
    unfold passMemberStep
    rw [hsign]
    simp only [hquote, if_false, if_true]
    exact map_eq_ok.mpr ⟨(), hmember, rfl⟩
  | false =>
    obtain ⟨rest, htrim, hsign⟩ := nextMember_next.mp hnext
    have hcomma : ',' ≠ '\x7d' := by decide
    unfold passMemberStep
    rw [htrim]
    simp only [hcomma, if_false, if_true, Bool.false_eq_true]
    exact map_eq_ok.mpr ⟨(), passMember_of_parts hsign hkey hcolon hpass, rfl⟩

theorem passMemberStep_of_end {pass : Reader Unit} {first : Bool}
    (hnext : nextMember first s = .ok (false, t)) :
    passMemberStep pass first s = .ok (.inr (), t) := by
  unfold passMemberStep
  rw [nextMember_no.mp hnext]
  rfl

/-- Every value of the one reader is ignored by the other one. -/
def Ignores (pass : Reader Unit) (item : Reader Value) : Prop :=
  ∀ s v t, item s = .ok (v, t) → pass s = .ok ((), t)

variable {pass : Reader Unit} {item : Reader Value}

theorem pass_of_items (h : Ignores pass item) (htrims : Trims pass) {first : Bool}
    {vs : List Value} (hs : items first item s = .ok (vs, t)) :
    loop (passItemStep pass) first s = .ok ((), t) := by
  have hsame : ∃ y, loop (passItemStep pass) first s = .ok (y, t) ∧ True := by
    refine loop_simulates (passItemStep pass) (fun before now _ => before.1 = now) (fun _ _ => True)
      ?_ ?_ rfl hs
    · rintro ⟨first, acc⟩ _ s before' rest rfl hturn
      obtain ⟨u, hnext, v, hitem, rfl⟩ := itemStep_next.mp hturn
      exact ⟨false, passItemStep_of_nextItem htrims hnext (h u v rest hitem), rfl⟩
    · rintro ⟨first, acc⟩ _ s x rest rfl hturn
      obtain ⟨hnext, -⟩ := itemStep_end.mp hturn
      exact ⟨(), passItemStep_of_end hnext, trivial⟩
  obtain ⟨_, hloop, -⟩ := hsame
  exact hloop

theorem pass_of_members (h : Ignores pass item) {before : List (String × Value)}
    {ms : List (String × Value)} (hs : loop (memberStep item) before s = .ok (ms, t)) :
    loop (passMemberStep pass) before.isEmpty s = .ok ((), t) := by
  -- the two loops go in step: all that the one keeps of its members is whether there was any
  have hsame : ∃ y, loop (passMemberStep pass) before.isEmpty s = .ok (y, t) ∧ True := by
    refine loop_simulates (passMemberStep pass) (fun before now _ => before.isEmpty = now)
      (fun _ _ => True) ?_ ?_ rfl hs
    · rintro before _ s before' rest rfl hturn
      obtain ⟨more, u, hnext, hmore⟩ := bind_eq_ok.mp hturn
      cases more with
      | false => cases hmore
      | true =>
        obtain ⟨key, u₁, hkey, hmore⟩ := bind_eq_ok.mp hmore
        obtain ⟨_, u₂, hcolon, hmore⟩ := bind_eq_ok.mp hmore
        obtain ⟨v, u₃, hitem, hv⟩ := bind_eq_ok.mp hmore
        cases hv
        exact ⟨false, passMemberStep_of_nextMember hnext hkey hcolon (h u₂ v _ hitem), rfl⟩
    · rintro before _ s x rest rfl hturn
      obtain ⟨more, u, hnext, hmore⟩ := bind_eq_ok.mp hturn
      cases more with
      | false =>
        cases hmore
        exact ⟨(), passMemberStep_of_end hnext, trivial⟩
      | true =>
        obtain ⟨key, u₁, -, hmore⟩ := bind_eq_ok.mp hmore
        obtain ⟨_, u₂, -, hmore⟩ := bind_eq_ok.mp hmore
        obtain ⟨v, u₃, -, hv⟩ := bind_eq_ok.mp hmore
        cases hv
  obtain ⟨_, hloop, -⟩ := hsame
  exact hloop

theorem passWithin_of_value {depth : Nat} {v : Value} (h : value depth s = .ok (v, t)) :
    passWithin (depth + 1) s = .ok ((), t) := by
  induction depth generalizing s v t with
  | zero =>
    obtain ⟨hd, u, hhead, hrest⟩ := bind_eq_ok.mp h
    cases hd with
    | list => exact absurd hrest fail_ne_ok
    | object => exact absurd hrest fail_ne_ok
    | _ =>
      obtain ⟨-, rfl⟩ := pure_eq_ok.mp hrest
      exact passWithin_of_head hhead (by simp) (by simp) 0
  | succ depth ih =>
    have hignores : Ignores (passWithin (depth + 1)) (value depth) := fun s v t hv => ih hv
    obtain ⟨hd, u, hhead, hrest⟩ := bind_eq_ok.mp h
    cases hd with
    | list =>
      obtain ⟨vs, hitems, -⟩ := map_eq_ok.mp hrest
      have hloop := pass_of_items hignores (trims_passWithin _) hitems
      unfold passWithin
      rw [trimmed_of_list hhead]
      simpa using hloop
    | object =>
      obtain ⟨ms, hmembers, -⟩ := map_eq_ok.mp hrest
      have hloop := pass_of_members hignores hmembers
      unfold passWithin
      rw [trimmed_of_object hhead]
      simpa using hloop
    | _ =>
      obtain ⟨-, rfl⟩ := pure_eq_ok.mp hrest
      exact passWithin_of_head hhead (by simp) (by simp) (depth + 1)

/-- **A value that is kept and a value that is ignored end at the same place.** -/
theorem skip_of_value {depth : Nat} {v : Value} (h : value depth s = .ok (v, t)) :
    skip s = .ok ((), t) :=
  skip_eq_ok.mpr ⟨depth + 1, passWithin_of_value h⟩

end Together

end SoundEngine.Json
