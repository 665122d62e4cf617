import SoundEngine.Json.Value
import SoundEngine.Proofs.Reading

/-!
# Punctuation, texts and numbers

The smallest parts of a document, each with what it takes from the text.  Some of them are read in two
ways, depending on whether the value is kept or only followed to its end.  The two ways take the same
piece, for a text (`passText_of_text`) and for a number (`numeral_eq_ok`, `passNumeral_eq_ok`).

* §1 is about punctuation: which characters a separator consumes, and which one it only looks at.
* §2 is about texts.  An escaped pair of surrogates is one character for the one reader and two escapes
  for the other, so the two loops do not go on together and the length of the text carries the
  induction.
* §3 cuts a number into its digits, which is all that both readers do before they part.
-/

namespace SoundEngine.Json

open Reader

variable {α β : Type}

/-! ## 1. Punctuation -/

section Punctuation

variable {first : Bool} {s t : List Char}

theorem takes_word (cs : List Char) : Takes 0 (word cs) := by
  induction cs with
  | nil => exact takes_pure ()
  | cons c cs ih =>
    have hbody : ∀ d, Takes 0 fun rest : List Char =>
        if d = c then word cs rest else .error .expectedIdentifier := fun d =>
      Takes.iteAt (fun _ => ih) fun _ => takes_fail _
    exact (takes_byChar hbody).mono (Nat.zero_le _)

theorem takes_colon : Takes 1 colon :=
  takes_afterBlanks fun _ => Takes.iteAt (fun _ => takes_pure ()) fun _ => takes_fail _

theorem takes_passKeySign : Takes 1 passKeySign :=
  takes_afterBlanks fun _ => Takes.iteAt (fun _ => takes_pure ()) fun _ => takes_fail _

theorem trims_passKeySign : Trims passKeySign := trims_afterBlanks

theorem passKeySign_eq_ok : passKeySign s = .ok ((), t) ↔ trimmed s = '"' :: t := by
  unfold passKeySign
  cases trimmed s with
  | nil => simp
  | cons c rest =>
    by_cases hc : c = '"'
    · simp [hc]
    · simp [hc]

theorem closeList_eq_ok : closeList s = .ok ((), t) ↔ trimmed s = ']' :: t := by
  unfold closeList
  cases trimmed s with
  | nil => simp
  | cons c rest =>
    by_cases hc : c = ']'
    · simp [hc]
    · simp only [hc, if_false, List.cons.injEq, false_and, iff_false]
      intro h
      split at h
      · split at h
        · split at h <;> cases h
        · cases h
      · cases h

theorem nextItem_no : nextItem first s = .ok (false, t) ↔ trimmed s = ']' :: t := by
  unfold nextItem
  cases trimmed s with
  | nil => simp
  | cons c rest =>
    by_cases hc : c = ']'
    · simp [hc]
    · simp only [hc, if_false, List.cons.injEq, false_and, iff_false]
      intro h
      split at h
      · cases h
      · split at h
        · split at h
          · cases h
          · split at h <;> cases h
        · cases h

theorem nextItem_first :
    nextItem true s = .ok (true, t) ↔ trimmed s = t ∧ ∃ c rest, t = c :: rest ∧ c ≠ ']' := by
  unfold nextItem
  cases trimmed s with
  | nil =>
    simp only [reduceCtorEq, false_iff, not_and]
    rintro rfl ⟨c, rest, heq, -⟩
    cases heq
  | cons c rest =>
    by_cases hc : c = ']'
    · simp only [hc, if_true, Except.ok.injEq, Prod.mk.injEq, Bool.false_eq_true, false_and,
        false_iff]
      rintro ⟨rfl, d, rest', heq, hd⟩
      exact hd (List.cons.inj heq).1.symm
    · simp only [hc, if_false, if_true, Except.ok.injEq, Prod.mk.injEq, true_and]
      constructor
      · rintro rfl
        exact ⟨rfl, c, rest, rfl, hc⟩
      · rintro ⟨h, -⟩
        exact h

/-- After a comma an item is read as the first one is. -/
theorem nextItem_next :
    nextItem false s = .ok (true, t) ↔
      ∃ rest, trimmed s = ',' :: rest ∧ nextItem true rest = .ok (true, t) := by
  simp only [nextItem_first]
  unfold nextItem
  cases trimmed s with
  | nil => simp
  | cons c rest =>
    by_cases hc : c = ','
    · subst hc
      have hne : ',' ≠ ']' := by decide
      simp only [hne, if_false, if_true, Bool.false_eq_true, List.cons.injEq, true_and,
        exists_eq_left']
      cases htrim : trimmed rest with
      | nil =>
        simp only [reduceCtorEq, false_iff, not_and]
        rintro rfl ⟨d, rest', heq, -⟩
        cases heq
      | cons d rest' =>
        by_cases hd : d = ']'
        · simp only [hd, if_true, reduceCtorEq, false_iff]
          rintro ⟨rfl, d', rest'', heq, hd'⟩
          exact hd' (List.cons.inj heq).1.symm
        · simp only [hd, if_false, Except.ok.injEq, Prod.mk.injEq, true_and]
          constructor
          · rintro rfl
            exact ⟨rfl, d, rest', rfl, hd⟩
          · rintro ⟨h, -⟩
            exact h
    · simp only [hc, Bool.false_eq_true, if_false, List.cons.injEq, false_and, exists_const,
        iff_false]
      split <;> simp

/-- The first item takes what is in front of it too.  What is left begins with a character of the
item, so the item sees the same character in front of another rest. -/
theorem takes_firstItem {r : Reader β} (h : Takes 1 r) {u rest : List Char} {b : β}
    (hnext : nextItem true s = .ok (true, u)) (hr : r u = .ok (b, rest)) :
    ∃ m, 1 ≤ m.length ∧ s = m ++ rest ∧ ∀ t, Alike rest t →
      ∃ u', nextItem true (m ++ t) = .ok (true, u') ∧ r u' = .ok (b, t) := by
  obtain ⟨htrim, c, u, rfl, hc⟩ := nextItem_first.mp hnext
  obtain ⟨hblank, w, hw, rfl⟩ := trimmed_eq_cons htrim
  obtain ⟨m, hm, hsplit, ht⟩ := h (c :: u) b rest hr
  cases m with
  | nil => exact absurd hm (by decide)
  | cons d m =>
    obtain ⟨rfl, rfl⟩ := List.cons.inj hsplit
    refine ⟨w ++ c :: m, ?_, (List.append_assoc w (c :: m) rest).symm, ?_⟩
    · rw [List.length_append, List.length_cons]
      omega
    · intro t halike
      refine ⟨c :: m ++ t, ?_, ht t halike⟩
      refine nextItem_first.mpr ⟨?_, c, m ++ t, rfl, hc⟩
      rw [List.append_assoc, trimmed_append hw, List.cons_append, trimmed_cons hblank]

/-- Nothing can be said of `nextItem` alone, which leaves the character that it looks at. -/
theorem takes_nextItem {k : Bool → Reader β} (hitem : Takes 1 (k true)) (hend : Takes 0 (k false)) :
    Takes 1 (nextItem first >>= k) := by
  intro s b rest h
  obtain ⟨more, u, hnext, hk⟩ := bind_eq_ok.mp h
  cases more with
  | false =>
    obtain ⟨hblank, w, hw, rfl⟩ := trimmed_eq_cons (nextItem_no.mp hnext)
    obtain ⟨m, hm, rfl, ht⟩ := hend u b rest hk
    refine ⟨w ++ ']' :: m, ?_, (List.append_assoc w (']' :: m) rest).symm, ?_⟩
    · rw [List.length_append, List.length_cons]
      omega
    · intro t halike
      refine bind_eq_ok.mpr ⟨false, m ++ t, nextItem_no.mpr ?_, ht t halike⟩
      rw [List.append_assoc, trimmed_append hw, List.cons_append, trimmed_cons hblank]
  | true =>
    cases first with
    | true =>
      obtain ⟨m, hm, rfl, ht⟩ := takes_firstItem hitem hnext hk
      refine ⟨m, hm, rfl, fun t halike => ?_⟩
      obtain ⟨u', hnext', hk'⟩ := ht t halike
      exact bind_eq_ok.mpr ⟨true, u', hnext', hk'⟩
    | false =>
      obtain ⟨s', htrim, hnext'⟩ := nextItem_next.mp hnext
      obtain ⟨hblank, w, hw, rfl⟩ := trimmed_eq_cons htrim
      obtain ⟨m, hm, rfl, ht⟩ := takes_firstItem hitem hnext' hk
      refine ⟨w ++ ',' :: m, ?_, (List.append_assoc w (',' :: m) rest).symm, ?_⟩
      · rw [List.length_append, List.length_cons]
        omega
      · intro t halike
        obtain ⟨u', hnext'', hk'⟩ := ht t halike
        refine bind_eq_ok.mpr ⟨true, u', nextItem_next.mpr ⟨m ++ t, ?_, hnext''⟩, hk'⟩
        rw [List.append_assoc, trimmed_append hw, List.cons_append, trimmed_cons hblank]

theorem nextMember_no : nextMember first s = .ok (false, t) ↔ trimmed s = '\x7d' :: t := by
  unfold nextMember
  cases trimmed s with
  | nil => simp
  | cons c rest =>
    by_cases hc : c = '\x7d'
    · simp [hc]
    · simp only [hc, if_false, List.cons.injEq, false_and, iff_false]
      intro h
      split at h
      · split at h <;> cases h
      · split at h
        · split at h
          · cases h
          · split at h
            · cases h
            · split at h <;> cases h
        · cases h

theorem nextMember_first : nextMember true s = .ok (true, t) ↔ passKeySign s = .ok ((), t) := by
  rw [passKeySign_eq_ok]
  unfold nextMember
  cases trimmed s with
  | nil => simp
  | cons c rest =>
    by_cases hc : c = '"'
    · subst hc
      simp
    · by_cases hend : c = '\x7d'
      · simp [hend]
      · simp [hc, hend]

/-- After a comma a member is read as the first one is. -/
theorem nextMember_next :
    nextMember false s = .ok (true, t) ↔
      ∃ rest, trimmed s = ',' :: rest ∧ passKeySign rest = .ok ((), t) := by
  simp only [passKeySign_eq_ok]
  unfold nextMember
  cases trimmed s with
  | nil => simp
  | cons c rest =>
    by_cases hc : c = ','
    · subst hc
      have hne : ',' ≠ '\x7d' := by decide
      simp only [hne, if_false, if_true, Bool.false_eq_true, List.cons.injEq, true_and,
        exists_eq_left']
      cases trimmed rest with
      | nil => simp
      | cons d rest' =>
        by_cases hd : d = '"'
        · simp [hd]
        · by_cases hend : d = '\x7d'
          · simp [hend]
          · simp [hd, hend]
    · by_cases hend : c = '\x7d'
      · simp [hend]
      · simp [hc, hend]

theorem takes_nextMember : Takes 1 (nextMember first) := by
  refine takes_afterBlanks fun c => Takes.iteAt (fun _ => takes_pure false) fun _ => ?_
  refine Takes.iteAt (fun _ => ?_) fun _ => ?_
  · exact Takes.iteAt (fun _ => takes_pure true) fun _ => takes_fail _
  · refine Takes.iteAt (fun _ => ?_) fun _ => takes_fail _
    have hkey : ∀ d, Takes 0 fun rest : List Char =>
        if d = '"' then .ok (true, rest)
        else if d = '\x7d' then .error .trailingComma else .error .keyNotText := fun d =>
      Takes.iteAt (fun _ => takes_pure true) fun _ =>
        Takes.iteAt (fun _ => takes_fail _) fun _ => takes_fail _
    exact (takes_afterBlanks hkey).mono (Nat.zero_le 1)

end Punctuation

/-! ## 2. Texts -/

section Texts

theorem takes_fourDigits : Takes 4 fourDigits := by
  intro s n rest h
  have hopen : ∀ {s : List Char}, fourDigits s = .ok (n, rest) →
      ∃ a b c d, s = a :: b :: c :: d :: rest ∧
        ∀ t, fourDigits (a :: b :: c :: d :: t) = .ok (n, t) := by
    intro s h
    unfold fourDigits at h
    split at h
    · cases h
    · next hsize =>
      split at h
      · next a b c d rest' =>
        split at h
        · next ha hb hc hd =>
          cases h
          refine ⟨a, b, c, d, rfl, fun t => ?_⟩
          unfold fourDigits
          rw [if_neg (by simpa using hsize)]
          simp only [ha, hb, hc, hd]
        · cases h
      · cases h
  obtain ⟨a, b, c, d, rfl, ht⟩ := hopen h
  exact ⟨[a, b, c, d], Nat.le_refl 4, rfl, fun t _ => ht t⟩

theorem takes_pairSign (c : Char) : Takes 1 (pairSign c) :=
  takes_byChar fun _ => Takes.iteAt (fun _ => takes_pure ()) fun _ => takes_fail _

theorem takes_unicodeEscape : Takes 4 unicodeEscape := by
  refine takes_fourDigits.andThen fun n => ?_
  refine Takes.ite (fun _ => takes_fail _) fun _ => ?_
  refine Takes.ite (fun _ => takes_pure _) fun _ => ?_
  have hsecond : ∀ m : Nat, Takes 0 (if m < 0xdc00 ∨ 0xdfff < m then fail .loneSurrogate
      else pure (Char.ofNat ((n - 0xd800) * 0x400 + (m - 0xdc00) + 0x10000)) : Reader Char) :=
    fun m => Takes.ite (fun _ => takes_fail _) fun _ => takes_pure _
  have hpair := (takes_pairSign '\\').bind fun _ => (takes_pairSign 'u').bind fun _ =>
    takes_fourDigits.bind hsecond
  exact hpair.mono (Nat.zero_le _)

theorem takes_escaped : Takes 1 escaped := by
  refine takes_byChar fun c => ?_
  refine Takes.iteAt (fun _ => takes_unicodeEscape.mono (Nat.zero_le 4)) fun _ => ?_
  cases shortEscape? c with
  | none => exact takes_fail _
  | some d => exact takes_pure d

theorem takes_passEscape : Takes 1 passEscape := by
  refine takes_byChar fun c => Takes.iteAt (fun _ => ?_) fun _ => ?_
  · exact (takes_fourDigits.map _).mono (Nat.zero_le 4)
  · exact Takes.iteAt (fun _ => takes_pure ()) fun _ => takes_fail _

theorem takes_textStep (read : List Char) : Takes 1 (textStep read) := by
  refine takes_byChar fun c => Takes.iteAt (fun _ => takes_pure _) fun _ => ?_
  refine Takes.iteAt (fun _ => ?_) fun _ => Takes.iteAt (fun _ => takes_fail _) fun _ => takes_pure _
  refine ((takes_escaped.map fun d => .inl (d :: read)).mono (Nat.zero_le 1)).congr fun s x => ?_
  rw [map_apply]
  rcases escaped s with e | ⟨d, rest⟩ <;> exact Iff.rfl

theorem takes_passTextStep (u : Unit) : Takes 1 (passTextStep u) := by
  refine takes_byChar fun c => Takes.iteAt (fun _ => takes_pure _) fun _ => ?_
  refine Takes.iteAt (fun _ => ?_) fun _ => Takes.iteAt (fun _ => takes_fail _) fun _ => takes_pure _
  refine ((takes_passEscape.map fun _ => .inl ()).mono (Nat.zero_le 1)).congr fun s x => ?_
  rw [map_apply]
  rcases passEscape s with e | ⟨_, rest⟩ <;> exact Iff.rfl

theorem takes_text : Takes 1 text := Takes.loop takes_textStep []

theorem takes_passText : Takes 1 passText := Takes.loop takes_passTextStep ()

theorem passEscape_of_fourDigits {s rest : List Char} {n : Nat} (h : fourDigits s = .ok (n, rest)) :
    passEscape ('u' :: s) = .ok ((), rest) :=
  map_eq_ok.mpr ⟨n, h, rfl⟩

theorem pairSign_eq_ok {c : Char} {s rest : List Char} :
    pairSign c s = .ok ((), rest) ↔ s = c :: rest := by
  unfold pairSign
  cases s with
  | nil => simp
  | cons d s =>
    by_cases hd : d = c
    · simp [hd]
    · simp [hd]

/-- An escape that has a meaning has the right shape.  The two halves of a pair of surrogates are two
escapes of the right shape. -/
theorem passEscape_of_escaped {s rest : List Char} {d : Char} (h : escaped s = .ok (d, rest)) :
    passEscape s = .ok ((), rest) ∨
      ∃ t, passEscape s = .ok ((), '\\' :: t) ∧ passEscape t = .ok ((), rest) := by
  cases s with
  | nil => cases h
  | cons c s =>
    -- only an escape of four digits may need a second one, for the other half of a pair
    by_cases hc : c = 'u'
    · subst hc
      have hunicode : unicodeEscape s = .ok (d, rest) := h
      obtain ⟨n, s', hfour, hrest⟩ := bind_eq_ok.mp hunicode
      have hpass := passEscape_of_fourDigits hfour
      split at hrest
      · exact absurd hrest fail_ne_ok
      · split at hrest
        · obtain ⟨-, rfl⟩ := pure_eq_ok.mp hrest
          exact .inl hpass
        · obtain ⟨_, s₁, hslash, hpair⟩ := bind_eq_ok.mp hrest
          obtain ⟨_, s₂, hu, hsecond⟩ := bind_eq_ok.mp hpair
          obtain ⟨m, s₃, hfour', hlast⟩ := bind_eq_ok.mp hsecond
          have hs₁ : s' = '\\' :: s₁ := pairSign_eq_ok.mp hslash
          have hs₂ : s₁ = 'u' :: s₂ := pairSign_eq_ok.mp hu
          rw [hs₁, hs₂] at hpass
          split at hlast
          · exact absurd hlast fail_ne_ok
          · obtain ⟨-, rfl⟩ := pure_eq_ok.mp hlast
            exact .inr ⟨'u' :: s₂, hpass, passEscape_of_fourDigits hfour'⟩
    · left
      simp only [escaped, hc, if_false] at h
      split at h
      · next e he =>
        cases h
        simp [passEscape, hc, he]
      · cases h

theorem passText_escape {s rest : List Char} {x : Unit × List Char}
    (hescape : passEscape s = .ok ((), rest)) (h : passText rest = .ok x) :
    passText ('\\' :: s) = .ok x := by
  have hstep : passTextStep () ('\\' :: s) = .ok (.inl (), rest) := by
    simp [passTextStep, hescape]
  exact (loop_eq_ok takes_passTextStep).mpr (.inl ⟨(), rest, hstep, h⟩)

/-- **A text that can be read can be ignored.** -/
theorem passText_of_loop {read s rest : List Char} {t : String}
    (h : loop textStep read s = .ok (t, rest)) : passText s = .ok ((), rest) := by
  induction hn : s.length using Nat.strong_induction_on generalizing read s with
  | _ n ih =>
  subst hn
  -- each turn of the one loop is one turn of the other, or two if it reads a pair of escapes
  rcases (loop_eq_ok takes_textStep).mp h with ⟨read', s', hstep, hloop⟩ | hstep
  · have hlen := (takes_textStep read).length_le hstep
    have hpass := ih s'.length (by omega) hloop rfl
    cases s with
    | nil => cases hstep
    | cons c s =>
      by_cases hquote : c = '"'
      · simp [textStep, hquote] at hstep
      · by_cases hslash : c = '\\'
        · subst hslash
          simp only [textStep, hquote, if_false, if_true] at hstep
          split at hstep
          · cases hstep
          · next d s₁ hescaped =>
            cases hstep
            rcases passEscape_of_escaped hescaped with hone | ⟨u, hhalf, hother⟩
            · exact passText_escape hone hpass
            · exact passText_escape hhalf (passText_escape hother hpass)
        · simp only [textStep, hquote, hslash, if_false] at hstep
          split at hstep
          · cases hstep
          · next hcontrol =>
            cases hstep
            have hturn : passTextStep () (c :: s') = .ok (.inl (), s') := by
              simp [passTextStep, hquote, hslash, hcontrol]
            exact (loop_eq_ok takes_passTextStep).mpr (.inl ⟨(), s', hturn, hpass⟩)
  · refine (loop_eq_ok takes_passTextStep).mpr (.inr ?_)
    cases s with
    | nil => cases hstep
    | cons c s =>
      by_cases hquote : c = '"'
      · simp only [textStep, hquote, if_true] at hstep
        cases hstep
        simp [passTextStep, hquote]
      · simp only [textStep, hquote, if_false] at hstep
        split at hstep
        · split at hstep <;> cases hstep
        · split at hstep <;> cases hstep

theorem passText_of_text {s rest : List Char} {t : String} (h : text s = .ok (t, rest)) :
    passText s = .ok ((), rest) :=
  passText_of_loop h

end Texts

/-! ## 3. Numbers -/

/-- How a number is written after its sign: the digits of its parts, and whether the exponent is
negative. -/
structure Spelling where
  whole : List Char
  fraction : Option (List Char)
  exponent : Option (Bool × List Char)

/-- Digits, at least one. -/
def someDigits : Reader (List Char) := fun s =>
  if s.head?.any Char.isDigit then .ok (s.takeWhile Char.isDigit, s.dropWhile Char.isDigit)
  else .error .invalidNumber

/-- Goes on after a character of the kind `p`, if one comes next. -/
def ifNext (p : Char → Bool) (r : Reader α) : Reader (Option α) := fun s =>
  match s with
  | [] => .ok (none, [])
  | c :: rest => if p c then (some <$> r) rest else .ok (none, c :: rest)

/-- The letter of an exponent. -/
def isExponentSign (c : Char) : Bool := c == 'e' || c == 'E'

/-- The exponent after its letter: its sign and its digits. -/
def exponentDigits : Reader (Bool × List Char) := do
  let negative ← fun s => .ok (exponentSign s)
  let digits ← someDigits
  pure (negative, digits)

/-- The digits of the whole part.  Only zero itself begins with a zero. -/
def wholeDigits : Reader (List Char) := do
  let digits ← someDigits
  if digits.head? = some '0' ∧ digits.length ≠ 1 then fail .invalidNumber else pure digits

/-- Cuts a number into its digits. -/
def spelling : Reader Spelling := do
  let whole ← wholeDigits
  let fraction ← ifNext (· == '.') someDigits
  let exponent ← ifNext isExponentSign exponentDigits
  pure ⟨whole, fraction, exponent⟩

/-- An exponent as an integer. -/
def exponentValue (e : Bool × List Char) : Int :=
  let n : Nat := e.2.foldl (fun n d => 10 * n + (d.toNat - 48)) 0
  if e.1 then -(n : Int) else n

/-- A 64-bit number by its parts. -/
def realNumber (negative : Bool) (significand : Nat) (power : Int) : Except Error Number :=
  match scaled significand power with
  | .error e => .error e
  | .ok x => .ok (.real (if negative then x.neg else x))

/-- The number that is written.  Without a point and an exponent it is a whole number, if it fits in 64
bits.  Otherwise as many digits as fit are made into one number, and what is left is a power of ten: the
exponent, less the digits behind the point, plus those of the whole part that did not fit. -/
def Spelling.number (negative : Bool) (d : Spelling) : Except Error Number :=
  let (n, dropped) := absorb 0 d.whole
  let shift : Int := (d.exponent.map exponentValue).getD 0
  match d.fraction with
  | some digits =>
    let (m, unread) := absorb n digits
    realNumber negative m ((dropped.length : Int) - (digits.length - unread.length : Nat) + shift)
  | none =>
    if dropped.isEmpty ∧ d.exponent.isNone then .ok (wholeNumber negative n)
    else realNumber negative n (dropped.length + shift)

section Numbers

variable {s t : List Char}

theorem isNumeric_of_isDigit {c : Char} (h : c.isDigit = true) : isNumeric c = true := by
  simp [isNumeric, h]

theorem isNumeric_of_point {c : Char} (h : (c == '.') = true) : isNumeric c = true := by
  simp [isNumeric, h]

theorem isNumeric_of_isExponentSign {c : Char} (h : isExponentSign c = true) :
    isNumeric c = true := by
  simp only [isExponentSign, Bool.or_eq_true] at h
  rcases h with h | h <;> simp [isNumeric, h]

/-- Digits end where no digit comes next. -/
theorem digits_append {m : List Char} (hm : ∀ c ∈ m, c.isDigit = true)
    (ht : t.head?.any Char.isDigit = false) :
    (m ++ t).takeWhile Char.isDigit = m ∧ (m ++ t).dropWhile Char.isDigit = t := by
  have hnone : t.takeWhile Char.isDigit = [] ∧ t.dropWhile Char.isDigit = t := by
    cases t with
    | nil => exact ⟨rfl, rfl⟩
    | cons c t =>
      have hc : ¬ c.isDigit = true := by simpa using ht
      exact ⟨List.takeWhile_cons_of_neg hc, List.dropWhile_cons_of_neg hc⟩
  rw [List.takeWhile_append_of_pos hm, List.dropWhile_append_of_pos hm, hnone.1, hnone.2,
    List.append_nil]
  exact ⟨rfl, rfl⟩

theorem head?_dropWhile_isDigit (s : List Char) :
    (s.dropWhile Char.isDigit).head?.any Char.isDigit = false := by
  cases h : s.dropWhile Char.isDigit with
  | nil => rfl
  | cons c rest =>
    have hne : s.dropWhile Char.isDigit ≠ [] := by
      rw [h]
      exact List.cons_ne_nil c rest
    have hhead := List.head_dropWhile_not Char.isDigit hne
    simp only [h, List.head_cons] at hhead
    simpa using hhead

/-- Digits are taken as far as they go. -/
theorem someDigits_eq_ok {digits : List Char} :
    someDigits s = .ok (digits, t) ↔
      digits ≠ [] ∧ (∀ c ∈ digits, c.isDigit = true) ∧ t.head?.any Char.isDigit = false ∧
        s = digits ++ t := by
  unfold someDigits
  constructor
  · intro h
    split at h
    · next hfirst =>
      cases h
      refine ⟨?_, fun c hc => List.mem_takeWhile_imp hc, head?_dropWhile_isDigit s,
        List.takeWhile_append_dropWhile.symm⟩
      cases s with
      | nil => cases hfirst
      | cons c s =>
        have hc : c.isDigit = true := by simpa using hfirst
        rw [List.takeWhile_cons_of_pos hc]
        exact List.cons_ne_nil _ _
    · cases h
  · rintro ⟨hne, hdigits, hnext, rfl⟩
    have hfirst : (digits ++ t).head?.any Char.isDigit = true := by
      cases digits with
      | nil => exact absurd rfl hne
      | cons c ds => simpa using hdigits c List.mem_cons_self
    rw [if_pos hfirst, (digits_append hdigits hnext).1, (digits_append hdigits hnext).2]

theorem takes_someDigits : Takes 1 someDigits := by
  intro s digits rest h
  obtain ⟨hne, hdigits, hnext, rfl⟩ := someDigits_eq_ok.mp h
  refine ⟨digits, List.length_pos_iff.mpr hne, rfl, fun t halike => ?_⟩
  exact someDigits_eq_ok.mpr
    ⟨hne, hdigits, halike.head (fun _ => isNumeric_of_isDigit) hnext, rfl⟩

theorem ifNext_end {p : Char → Bool} {r : Reader α} (hs : s.head?.any p = false) :
    ifNext p r s = .ok (none, s) := by
  cases s with
  | nil => rfl
  | cons c s =>
    have hc : ¬ p c = true := by simpa using hs
    exact if_neg hc

theorem takes_ifNext {p : Char → Bool} (hp : ∀ c, p c = true → isNumeric c = true) {r : Reader α}
    (h : Takes 0 r) : Takes 0 (ifNext p r) := by
  intro s a rest hs
  cases hnext : s.head?.any p with
  | false =>
    rw [ifNext_end hnext] at hs
    cases hs
    exact ⟨[], Nat.le_refl 0, rfl, fun t halike => ifNext_end (halike.head hp hnext)⟩
  | true =>
    cases s with
    | nil => cases hnext
    | cons c s =>
      have hc : p c = true := by simpa using hnext
      have hr : (some <$> r) s = .ok (a, rest) := by
        rw [← hs]
        exact (if_pos hc).symm
      obtain ⟨m, -, rfl, ht⟩ := h.map some s a rest hr
      exact ⟨c :: m, Nat.zero_le _, rfl, fun t halike => (if_pos hc).trans (ht t halike)⟩

theorem takes_exponentSign : Takes 0 (fun s => .ok (exponentSign s) : Reader Bool) := by
  have hplain : ∀ {s : List Char}, s.head?.any (fun c => c == '-' || c == '+') = false →
      exponentSign s = (false, s) := by
    intro s hs
    unfold exponentSign
    split
    · cases hs
    · cases hs
    · rfl
  intro s negative rest h
  cases hsign : s.head?.any (fun c => c == '-' || c == '+') with
  | false =>
    simp only [hplain hsign] at h
    cases h
    refine ⟨[], Nat.le_refl 0, rfl, fun t halike => ?_⟩
    have hnumeric : ∀ c, (c == '-' || c == '+') = true → isNumeric c = true := by
      intro c hc
      rcases (Bool.or_eq_true _ _).mp hc with hc | hc <;> simp [isNumeric, hc]
    simp only [List.nil_append, hplain (halike.head hnumeric hsign)]
  | true =>
    cases s with
    | nil => cases hsign
    | cons c s =>
      have hc : c = '-' ∨ c = '+' := by simpa using hsign
      rcases hc with rfl | rfl
      · cases h
        exact ⟨['-'], Nat.zero_le _, rfl, fun t _ => rfl⟩
      · cases h
        exact ⟨['+'], Nat.zero_le _, rfl, fun t _ => rfl⟩

theorem takes_exponentDigits : Takes 1 exponentDigits :=
  takes_exponentSign.after fun _ => takes_someDigits.andThen fun _ => takes_pure _

theorem takes_wholeDigits : Takes 1 wholeDigits :=
  takes_someDigits.andThen fun _ => Takes.ite (fun _ => takes_fail _) fun _ => takes_pure _

theorem takes_spelling : Takes 1 spelling := by
  refine takes_wholeDigits.andThen fun _ => Takes.after ?_ fun _ => Takes.after ?_ fun _ =>
    takes_pure _
  · exact takes_ifNext (fun _ => isNumeric_of_point) (takes_someDigits.mono (Nat.zero_le 1))
  · exact takes_ifNext (fun _ => isNumeric_of_isExponentSign)
      (takes_exponentDigits.mono (Nat.zero_le 1))

theorem spelling_eq_ok {d : Spelling} :
    spelling s = .ok (d, t) ↔ ∃ u, wholeDigits s = .ok (d.whole, u) ∧
      ∃ v, ifNext (· == '.') someDigits u = .ok (d.fraction, v) ∧
        ifNext isExponentSign exponentDigits v = .ok (d.exponent, t) := by
  unfold spelling
  simp only [bind_eq_ok, pure_eq_ok]
  constructor
  · rintro ⟨whole, u, hwhole, fraction, v, hfraction, exponent, t', hexponent, rfl, rfl⟩
    exact ⟨u, hwhole, v, hfraction, hexponent⟩
  · rintro ⟨u, hwhole, v, hfraction, hexponent⟩
    exact ⟨d.whole, u, hwhole, d.fraction, v, hfraction, d.exponent, t, hexponent, rfl, rfl⟩

theorem someDigits_cons {c : Char} (hc : c.isDigit = true) (rest : List Char) :
    someDigits (c :: rest) =
      .ok ((c :: rest).takeWhile Char.isDigit, (c :: rest).dropWhile Char.isDigit) :=
  if_pos (by simpa using hc)

/-- The digits of the whole part, by their first one. -/
theorem wholeDigits_cons {c : Char} {rest digits : List Char} :
    wholeDigits (c :: rest) = .ok (digits, t) ↔
      c.isDigit = true ∧ ¬ (c = '0' ∧ rest.head?.any Char.isDigit = true) ∧
        digits = (c :: rest).takeWhile Char.isDigit ∧ t = (c :: rest).dropWhile Char.isDigit := by
  unfold wholeDigits
  rw [bind_eq_ok]
  by_cases hc : c.isDigit = true
  · have hone : (c :: rest.takeWhile Char.isDigit).length ≠ 1 ↔
        rest.head?.any Char.isDigit = true := by
      cases rest with
      | nil => simp
      | cons d rest =>
        by_cases hd : d.isDigit = true
        · simp [List.takeWhile_cons_of_pos hd, hd]
        · simp [List.takeWhile_cons_of_neg hd, hd]
    simp only [someDigits_cons hc, List.takeWhile_cons_of_pos hc, hc, true_and]
    constructor
    · rintro ⟨ds, u, heq, h⟩
      cases heq
      split at h
      · exact absurd h fail_ne_ok
      · next hzero =>
        obtain ⟨rfl, rfl⟩ := pure_eq_ok.mp h
        rw [List.head?_cons, Option.some.injEq, hone] at hzero
        exact ⟨hzero, rfl, rfl⟩
    · rintro ⟨hzero, rfl, rfl⟩
      refine ⟨_, _, rfl, ?_⟩
      rw [if_neg (by rw [List.head?_cons, Option.some.injEq, hone]; exact hzero)]
      rfl
  · have hnone : ∀ x, someDigits (c :: rest) ≠ .ok x := by
      intro x h
      have hfirst : ¬ (c :: rest).head?.any Char.isDigit = true := by simpa using hc
      rw [someDigits, if_neg hfirst] at h
      cases h
    simp [hc, hnone]

theorem exponentDigits_eq_ok {e : Bool × List Char} :
    exponentDigits s = .ok (e, t) ↔
      someDigits (exponentSign s).2 = .ok (e.2, t) ∧ (exponentSign s).1 = e.1 := by
  unfold exponentDigits
  simp only [bind_eq_ok, pure_eq_ok]
  constructor
  · rintro ⟨negative, u, hsign, digits, t', hdigits, rfl, rfl⟩
    have heq : exponentSign s = (negative, u) := Except.ok.inj hsign
    rw [heq]
    exact ⟨hdigits, rfl⟩
  · rintro ⟨hdigits, hsign⟩
    exact ⟨e.1, (exponentSign s).2, congrArg Except.ok (Prod.ext hsign rfl), e.2, t, hdigits,
      rfl, rfl⟩

theorem exponent_eq_ok {i : Int} :
    exponent s = .ok (i, t) ↔ ∃ e, exponentDigits s = .ok (e, t) ∧ exponentValue e = i := by
  simp only [exponentDigits_eq_ok]
  unfold exponent
  obtain ⟨negative, u⟩ := exponentSign s
  cases u with
  | nil => simp [someDigits]
  | cons c rest =>
    by_cases hc : c.isDigit = true
    · simp only [hc, if_true, someDigits_cons hc, Except.ok.injEq, Prod.mk.injEq]
      constructor
      · rintro ⟨rfl, rfl⟩
        exact ⟨(negative, _), ⟨⟨rfl, rfl⟩, rfl⟩, rfl⟩
      · rintro ⟨⟨_, _⟩, ⟨⟨rfl, rfl⟩, rfl⟩, rfl⟩
        exact ⟨rfl, rfl⟩
    · simp [hc, someDigits]

/-- Without an exponent the number is finished. -/
theorem realTail_end {negative : Bool} {significand : Nat} {power : Int} {n : Number}
    (hs : s.head?.any isExponentSign = false) :
    realTail negative significand power s = .ok (n, t) ↔
      realNumber negative significand power = .ok n ∧ s = t := by
  unfold realTail realNumber
  cases s with
  | nil =>
    dsimp only
    cases scaled significand power <;> simp
  | cons c rest =>
    have hc : ¬ (c = 'e' ∨ c = 'E') := by simpa [isExponentSign] using hs
    simp only [hc, if_false]
    cases scaled significand power <;> simp

/-- An exponent is added to the power. -/
theorem realTail_exponent {negative : Bool} {significand : Nat} {power : Int} {n : Number} {c : Char}
    {rest : List Char} (hc : isExponentSign c = true) :
    realTail negative significand power (c :: rest) = .ok (n, t) ↔
      ∃ i, exponent rest = .ok (i, t) ∧ realNumber negative significand (power + i) = .ok n := by
  have hletter : c = 'e' ∨ c = 'E' := by simpa [isExponentSign] using hc
  unfold realTail realNumber
  simp only [hletter, if_true]
  rcases exponent rest with e | ⟨i, u⟩
  · simp
  · simp only [Except.ok.injEq, Prod.mk.injEq]
    constructor
    · intro h
      cases hscaled : scaled significand (power + i) with
      | error e =>
        rw [hscaled] at h
        cases h
      | ok x =>
        rw [hscaled] at h
        cases h
        exact ⟨i, ⟨rfl, rfl⟩, by simp only [hscaled]⟩
    · rintro ⟨_, ⟨rfl, rfl⟩, h⟩
      cases hscaled : scaled significand (power + i) with
      | error e =>
        rw [hscaled] at h
        cases h
      | ok x =>
        rw [hscaled] at h
        cases h
        rfl

theorem ifNext_cons {p : Char → Bool} {r : Reader α} {c : Char} (hc : p c = true)
    {rest : List Char} {a : Option α} :
    ifNext p r (c :: rest) = .ok (a, t) ↔ ∃ b, r rest = .ok (b, t) ∧ some b = a := by
  have heq : ifNext p r (c :: rest) = (some <$> r) rest := if_pos hc
  rw [heq, map_eq_ok]

theorem realTail_eq_ok {negative : Bool} {significand : Nat} {power : Int} {n : Number} :
    realTail negative significand power s = .ok (n, t) ↔
      ∃ e, ifNext isExponentSign exponentDigits s = .ok (e, t) ∧
        realNumber negative significand (power + (e.map exponentValue).getD 0) = .ok n := by
  cases hs : s.head?.any isExponentSign with
  | false =>
    rw [realTail_end hs, ifNext_end hs]
    constructor
    · rintro ⟨h, rfl⟩
      exact ⟨none, rfl, by simpa using h⟩
    · rintro ⟨e, heq, h⟩
      cases heq
      exact ⟨by simpa using h, rfl⟩
  | true =>
    cases s with
    | nil => cases hs
    | cons c rest =>
      have hc : isExponentSign c = true := by simpa using hs
      simp only [realTail_exponent hc, ifNext_cons hc, exponent_eq_ok]
      constructor
      · rintro ⟨i, ⟨e, hdigits, rfl⟩, h⟩
        exact ⟨some e, ⟨e, hdigits, rfl⟩, h⟩
      · rintro ⟨_, ⟨e, hdigits, rfl⟩, h⟩
        exact ⟨exponentValue e, ⟨e, hdigits, rfl⟩, h⟩

/-- The digits of a fraction, by whether there are any. -/
theorem someDigits_apply (s : List Char) :
    someDigits s = if (s.takeWhile Char.isDigit).isEmpty then .error .invalidNumber
      else .ok (s.takeWhile Char.isDigit, s.dropWhile Char.isDigit) := by
  unfold someDigits
  cases s with
  | nil => rfl
  | cons c s =>
    by_cases hc : c.isDigit = true
    · simp [hc]
    · simp [hc]

theorem spelling_nil {d : Spelling} : spelling [] ≠ .ok (d, t) := by
  intro h
  obtain ⟨u, hwhole, -⟩ := spelling_eq_ok.mp h
  obtain ⟨digits, v, hdigits, -⟩ := bind_eq_ok.mp hwhole
  cases hdigits

/-- A number by what follows its whole part. -/
theorem spelling_cons {d : Spelling} {c : Char} {rest : List Char} :
    spelling (c :: rest) = .ok (d, t) ↔
      c.isDigit = true ∧ ¬ (c = '0' ∧ rest.head?.any Char.isDigit = true) ∧
        d.whole = (c :: rest).takeWhile Char.isDigit ∧
        ∃ v, ifNext (· == '.') someDigits ((c :: rest).dropWhile Char.isDigit) = .ok (d.fraction, v) ∧
          ifNext isExponentSign exponentDigits v = .ok (d.exponent, t) := by
  rw [spelling_eq_ok]
  simp only [wholeDigits_cons]
  constructor
  · rintro ⟨u, ⟨hc, hzero, hwhole, rfl⟩, v, h⟩
    exact ⟨hc, hzero, hwhole, v, h⟩
  · rintro ⟨hc, hzero, hwhole, v, h⟩
    exact ⟨_, ⟨hc, hzero, hwhole, rfl⟩, v, h⟩

/-- A number without a fraction is an integer if it has no exponent either. -/
theorem wholeTail_eq_ok {negative : Bool} {n : Nat} {dropped : List Char} {x : Number} :
    (if dropped.isEmpty ∧ ¬ s.head?.any (fun d => d == 'e' || d == 'E') then
        .ok (wholeNumber negative n, s)
      else realTail negative n dropped.length s) = .ok (x, t) ↔
      ∃ e, ifNext isExponentSign exponentDigits s = .ok (e, t) ∧
        (if dropped.isEmpty ∧ e.isNone then .ok (wholeNumber negative n)
          else realNumber negative n (dropped.length + (e.map exponentValue).getD 0)) = .ok x := by
  change (if dropped.isEmpty ∧ ¬ s.head?.any isExponentSign then _ else _) = _ ↔ _
  by_cases hdropped : dropped.isEmpty = true
  · cases hs : s.head?.any isExponentSign with
    | false =>
      rw [ifNext_end hs]
      simp only [hdropped, Bool.false_eq_true, not_false_iff, and_self, if_true, Except.ok.injEq,
        Prod.mk.injEq]
      constructor
      · rintro ⟨rfl, rfl⟩
        exact ⟨none, ⟨rfl, rfl⟩, rfl⟩
      · rintro ⟨e, ⟨rfl, rfl⟩, h⟩
        exact ⟨Except.ok.inj h, rfl⟩
    | true =>
      -- with an exponent the number is no integer
      have hsome : ∀ {e}, ifNext isExponentSign exponentDigits s = .ok (e, t) → e.isNone = false := by
        intro e he
        cases s with
        | nil => cases hs
        | cons c rest =>
          have hc : isExponentSign c = true := by simpa using hs
          obtain ⟨b, -, rfl⟩ := (ifNext_cons hc).mp he
          rfl
      simp only [not_true, and_false, if_false, realTail_eq_ok]
      constructor
      · rintro ⟨e, he, h⟩
        exact ⟨e, he, by rw [if_neg (by simp [hsome he])]; exact h⟩
      · rintro ⟨e, he, h⟩
        rw [if_neg (by simp [hsome he])] at h
        exact ⟨e, he, h⟩
  · simp only [hdropped, Bool.false_eq_true, false_and, if_false, realTail_eq_ok]

/-- Another form of "no point comes next". -/
theorem noPoint (h : ∀ tail, s = '.' :: tail → False) : s.head?.any (· == '.') = false := by
  cases s with
  | nil => rfl
  | cons c s =>
    have hc : c ≠ '.' := fun hc => h s (by rw [hc])
    simpa using hc

/-- **A number is what its digits say.** -/
theorem numeral_eq_ok {negative : Bool} {x : Number} :
    numeral negative s = .ok (x, t) ↔ ∃ d, spelling s = .ok (d, t) ∧ d.number negative = .ok x := by
  cases s with
  | nil => simp [numeral, spelling_nil]
  | cons c rest =>
    by_cases hc : c.isDigit = true
    case neg => simp [numeral, spelling_cons, hc]
    by_cases hzero : c = '0' ∧ rest.head?.any Char.isDigit = true
    case pos => simp [numeral, spelling_cons, hzero]
    simp only [numeral, spelling_cons, hc, hzero, not_true, not_false_iff, if_false, true_and]
    generalize (c :: rest).takeWhile Char.isDigit = digits
    generalize (c :: rest).dropWhile Char.isDigit = u
    split
    · next tail =>
      have hpoint : ('.' == '.') = true := rfl
      simp only [ifNext_cons (p := (· == '.')) hpoint, someDigits_apply]
      by_cases hnone : (tail.takeWhile Char.isDigit).isEmpty = true
      · simp [hnone]
      · simp only [hnone, Bool.false_eq_true, if_false, realTail_eq_ok]
        constructor
        · rintro ⟨e, he, h⟩
          exact ⟨⟨digits, some _, e⟩, ⟨rfl, _, ⟨_, rfl, rfl⟩, he⟩, h⟩
        · rintro ⟨⟨_, fraction, e⟩, ⟨rfl, v, ⟨ds, heq, rfl⟩, he⟩, h⟩
          cases heq
          exact ⟨e, he, h⟩
    · next hpoint =>
      have hnext := noPoint hpoint
      rw [wholeTail_eq_ok, ifNext_end hnext]
      constructor
      · rintro ⟨e, he, h⟩
        exact ⟨⟨digits, none, e⟩, ⟨rfl, u, rfl, he⟩, h⟩
      · rintro ⟨⟨_, fraction, e⟩, ⟨rfl, v, heq, he⟩, h⟩
        cases heq
        exact ⟨e, he, h⟩

theorem passDigits_eq_ok :
    passDigits s = .ok ((), t) ↔ ∃ digits, someDigits s = .ok (digits, t) := by
  unfold passDigits someDigits
  split <;> simp

theorem passExponent_eq_ok :
    passExponent s = .ok ((), t) ↔ ∃ e, ifNext isExponentSign exponentDigits s = .ok (e, t) := by
  cases hs : s.head?.any isExponentSign with
  | false =>
    rw [ifNext_end hs]
    cases s with
    | nil => simp [passExponent]
    | cons c rest =>
      have hc : ¬ (c = 'e' ∨ c = 'E') := by simpa [isExponentSign] using hs
      simp [passExponent, hc]
  | true =>
    cases s with
    | nil => cases hs
    | cons c rest =>
      have hc : isExponentSign c = true := by simpa using hs
      have hletter : c = 'e' ∨ c = 'E' := by simpa [isExponentSign] using hc
      simp only [passExponent, hletter, if_true, passDigits_eq_ok, ifNext_cons hc,
        exponentDigits_eq_ok]
      constructor
      · rintro ⟨digits, h⟩
        exact ⟨some _, ((exponentSign rest).1, digits), ⟨h, rfl⟩, rfl⟩
      · rintro ⟨_, e, ⟨h, -⟩, rfl⟩
        exact ⟨e.2, h⟩

/-- A number that is ignored is cut in the same way. -/
theorem passNumeral_eq_ok : passNumeral s = .ok ((), t) ↔ ∃ d, spelling s = .ok (d, t) := by
  cases s with
  | nil => simp [passNumeral, spelling_nil]
  | cons c rest =>
    by_cases hzero : c = '0' ∧ rest.head?.any Char.isDigit = true
    case pos => simp [passNumeral, spelling_cons, hzero]
    by_cases hc : c.isDigit = true
    case neg => simp [passNumeral, passDigits, spelling_cons, hc]
    have hdigits : passDigits (c :: rest) = .ok ((), (c :: rest).dropWhile Char.isDigit) :=
      if_pos (by simpa using hc)
    simp only [passNumeral, spelling_cons, hc, hzero, hdigits, not_false_iff, if_false, true_and]
    generalize (c :: rest).takeWhile Char.isDigit = digits
    generalize (c :: rest).dropWhile Char.isDigit = u
    -- the digits in front are the same for both, so only the two optional parts are left
    have hparts : (∃ d : Spelling, d.whole = digits ∧ ∃ v,
        ifNext (· == '.') someDigits u = .ok (d.fraction, v) ∧
          ifNext isExponentSign exponentDigits v = .ok (d.exponent, t)) ↔
        ∃ fraction v, ifNext (· == '.') someDigits u = .ok (fraction, v) ∧
          passExponent v = .ok ((), t) := by
      simp only [passExponent_eq_ok]
      constructor
      · rintro ⟨d, -, v, hfraction, hexponent⟩
        exact ⟨d.fraction, v, hfraction, d.exponent, hexponent⟩
      · rintro ⟨fraction, v, hfraction, exponent, hexponent⟩
        exact ⟨⟨digits, fraction, exponent⟩, rfl, v, hfraction, hexponent⟩
    rw [hparts]
    split
    · next heq => cases heq
    · next tail heq =>
      have hu : u = '.' :: tail := by simpa using heq
      subst hu
      have hpoint : ('.' == '.') = true := rfl
      simp only [ifNext_cons (p := (· == '.')) hpoint]
      constructor
      · intro h
        split at h
        · cases h
        · next v hpass =>
          obtain ⟨ds, hds⟩ := passDigits_eq_ok.mp hpass
          exact ⟨some ds, v, ⟨ds, hds, rfl⟩, h⟩
      · rintro ⟨_, v, ⟨ds, hds, rfl⟩, h⟩
        rw [passDigits_eq_ok.mpr ⟨ds, hds⟩]
        exact h
    · next v hpoint heq =>
      have hu : u = v := by simpa using heq
      subst hu
      have hnext := noPoint hpoint
      rw [ifNext_end hnext]
      constructor
      · intro h
        exact ⟨none, u, rfl, h⟩
      · rintro ⟨fraction, v, hsame, h⟩
        cases hsame
        exact h

theorem takes_numeral (negative : Bool) : Takes 1 (numeral negative) := by
  refine (takes_spelling.andThen fun d => takes_ofResult (d.number negative)).congr fun s x => ?_
  obtain ⟨n, t⟩ := x
  rw [numeral_eq_ok, bind_eq_ok]
  constructor
  · rintro ⟨d, hd, hn⟩
    exact ⟨d, t, hd, ofResult_eq_ok.mpr ⟨hn, rfl⟩⟩
  · rintro ⟨d, u, hd, hresult⟩
    obtain ⟨hn, rfl⟩ := ofResult_eq_ok.mp hresult
    exact ⟨d, hd, hn⟩

theorem takes_passNumeral : Takes 1 passNumeral := by
  refine (takes_spelling.map fun _ => ()).congr fun s x => ?_
  obtain ⟨_, t⟩ := x
  rw [passNumeral_eq_ok, map_eq_ok]
  simp

end Numbers

end SoundEngine.Json
