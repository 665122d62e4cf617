import SoundEngine.Proofs.Shortest
import SoundEngine.Proofs.Writing

/-!
# Written numbers are numbers

A number that is written is cut by the reader into the digits it was put together from, and the number
that these digits make is not out of range.  So every number that has a written form is accepted
(`Decoder.single_written`).  Which number comes back is another question, and is not asked here.

* §1 is a spelling and its text.  The reader cuts a text to its end if and only if it is the text of a
  proper spelling (`spelling_iff_text`), so to speak of these texts is to speak of all numbers.
* §2 has the spelling of a decimal, in place or with an exponent (`Layout.write_spelled`).
* §3 makes a number of the digits.  A significand never exceeds 64 bits, whatever the digits are, so the
  power of ten alone decides (`scaled_eq_ok`).
* §4 bounds the power by the place of the leading digit, and puts the parts together.
-/

namespace SoundEngine

namespace Json

open Reader

/-! ## 1. The text of a spelling -/

/-- The point and the digits after it. -/
def fractionText : Option (List Char) → List Char
  | none => []
  | some digits => '.' :: digits

/-- The sign of an exponent.  `plus` puts one before an exponent that is not negative. -/
def exponentSignText (plus negative : Bool) : List Char :=
  if negative then ['-'] else if plus then ['+'] else []

/-- The letter of an exponent.  Both cases are read; only the small letter is ever written. -/
def exponentLetter (capital : Bool) : Char := if capital then 'E' else 'e'

/-- The letter of an exponent, its sign and its digits. -/
def exponentText (capital plus : Bool) : Option (Bool × List Char) → List Char
  | none => []
  | some e => exponentLetter capital :: (exponentSignText plus e.1 ++ e.2)

/-- The text of a number after its sign.  A spelling fixes all of it but two choices that make no
difference to the number, the case of the exponent's letter and the sign of an exponent that is not
negative, and these are left to the caller. -/
def Spelling.text (capital plus : Bool) (d : Spelling) : List Char :=
  d.whole ++ (fractionText d.fraction ++ exponentText capital plus d.exponent)

/-- Digits, at least one. -/
def IsDigits (digits : List Char) : Prop := digits ≠ [] ∧ ∀ c ∈ digits, c.isDigit = true

/-- The parts of a spelling are digits, and the whole part does not begin with a needless zero. -/
structure Spelling.Proper (d : Spelling) : Prop where
  whole : IsDigits d.whole
  plain : d.whole.head? = some '0' → d.whole.length = 1
  fraction : ∀ digits ∈ d.fraction, IsDigits digits
  exponent : ∀ e ∈ d.exponent, IsDigits e.2

theorem isDigits_zero : IsDigits ['0'] := by
  refine ⟨List.cons_ne_nil _ _, fun c hc => ?_⟩
  rw [List.mem_singleton.mp hc]
  rfl

theorem IsDigits.append {ds es : List Char} (h : IsDigits ds) (h' : ∀ c ∈ es, c.isDigit = true) :
    IsDigits (ds ++ es) := by
  refine ⟨by simp [h.1], fun c hc => ?_⟩
  rcases List.mem_append.mp hc with hc | hc
  · exact h.2 c hc
  · exact h' c hc

theorem IsDigits.take {ds : List Char} (h : IsDigits ds) (k : Nat) : IsDigits (ds.take (k + 1)) :=
  ⟨by simp [h.1], fun c hc => h.2 c (List.mem_of_mem_take hc)⟩

theorem exponentSign_of_isDigit {c : Char} (hc : c.isDigit = true) (s : List Char) :
    exponentSign (c :: s) = (false, c :: s) := by
  unfold exponentSign
  split
  · next heq =>
    cases heq
    cases hc
  · next heq =>
    cases heq
    cases hc
  · rfl

theorem wholeDigits_append {whole t : List Char} (h : IsDigits whole)
    (hplain : whole.head? = some '0' → whole.length = 1) (ht : t.head?.any Char.isDigit = false) :
    wholeDigits (whole ++ t) = .ok (whole, t) := by
  refine bind_eq_ok.mpr ⟨whole, t, someDigits_eq_ok.mpr ⟨h.1, h.2, ht, rfl⟩, ?_⟩
  rw [if_neg fun hzero => hzero.2 (hplain hzero.1)]
  rfl

theorem exponentDigits_signed {plus : Bool} {e : Bool × List Char} (h : IsDigits e.2) :
    exponentDigits (exponentSignText plus e.1 ++ e.2) = .ok (e, []) := by
  obtain ⟨negative, digits⟩ := e
  have hdigits : someDigits digits = .ok (digits, []) :=
    someDigits_eq_ok.mpr ⟨h.1, h.2, rfl, (List.append_nil _).symm⟩
  have hsign : exponentSign (exponentSignText plus negative ++ digits) = (negative, digits) := by
    cases negative with
    | true => rfl
    | false =>
      cases plus with
      | true => rfl
      | false =>
        cases digits with
        | nil => exact absurd rfl h.1
        | cons c digits => exact exponentSign_of_isDigit (h.2 c List.mem_cons_self) digits
  rw [exponentDigits_eq_ok, hsign]
  exact ⟨hdigits, rfl⟩

/-- What begins an exponent is neither a digit nor a point, so that the parts before it end there. -/
theorem head?_exponentText {p : Char → Bool} (hp : ∀ capital, p (exponentLetter capital) = false)
    (capital plus : Bool) (e : Option (Bool × List Char)) :
    (exponentText capital plus e).head?.any p = false := by
  cases e with
  | none => rfl
  | some e => exact (Option.any_some ..).trans (hp capital)

theorem isExponentSign_letter (capital : Bool) : isExponentSign (exponentLetter capital) = true := by
  cases capital <;> rfl

/-- **A proper spelling is cut into its parts.** -/
theorem Spelling.Proper.spelling_text {d : Spelling} (h : d.Proper) (capital plus : Bool) :
    spelling (d.text capital plus) = .ok (d, []) := by
  have hdigit := head?_exponentText (p := Char.isDigit) (by decide) capital plus d.exponent
  have hpoint := head?_exponentText (p := (· == '.')) (by decide) capital plus d.exponent
  have hwhole := wholeDigits_append
    (t := fractionText d.fraction ++ exponentText capital plus d.exponent) h.whole h.plain (by
      cases d.fraction with
      | none => exact hdigit
      | some digits => rfl)
  refine spelling_eq_ok.mpr ⟨_, hwhole, exponentText capital plus d.exponent, ?_, ?_⟩
  · cases hfraction : d.fraction with
    | none => exact ifNext_end hpoint
    | some digits =>
      obtain ⟨hne, hdigits⟩ := h.fraction digits hfraction
      refine (ifNext_cons (p := (· == '.')) rfl).mpr ⟨digits, ?_, rfl⟩
      exact someDigits_eq_ok.mpr ⟨hne, hdigits, hdigit, rfl⟩
  · cases hexponent : d.exponent with
    | none => rfl
    | some e =>
      exact (ifNext_cons (isExponentSign_letter capital)).mpr
        ⟨e, exponentDigits_signed (h.exponent e hexponent), rfl⟩

section Cut

variable {s t : List Char}

theorem wholeDigits_cut {whole : List Char} (h : wholeDigits s = .ok (whole, t)) :
    IsDigits whole ∧ (whole.head? = some '0' → whole.length = 1) ∧ s = whole ++ t := by
  obtain ⟨digits, u, hdigits, hplain⟩ := bind_eq_ok.mp h
  obtain ⟨hne, hall, -, rfl⟩ := someDigits_eq_ok.mp hdigits
  split at hplain
  · exact absurd hplain fail_ne_ok
  · next hzero =>
    obtain ⟨rfl, rfl⟩ := pure_eq_ok.mp hplain
    exact ⟨⟨hne, hall⟩, fun hhead => by_contra fun hlong => hzero ⟨hhead, hlong⟩, rfl⟩

theorem fraction_cut {fraction : Option (List Char)}
    (h : ifNext (· == '.') someDigits s = .ok (fraction, t)) :
    (∀ digits ∈ fraction, IsDigits digits) ∧ s = fractionText fraction ++ t := by
  cases hnext : s.head?.any (· == '.') with
  | false =>
    rw [ifNext_end hnext] at h
    cases h
    exact ⟨by simp, rfl⟩
  | true =>
    cases s with
    | nil => cases hnext
    | cons c rest =>
      obtain rfl : c = '.' := by simpa using hnext
      obtain ⟨digits, hdigits, rfl⟩ := (ifNext_cons (p := (· == '.')) rfl).mp h
      obtain ⟨hne, hall, -, rfl⟩ := someDigits_eq_ok.mp hdigits
      exact ⟨by rintro _ ⟨⟩; exact ⟨hne, hall⟩, rfl⟩

theorem exponentSign_cut (s : List Char) :
    ∃ plus, s = exponentSignText plus (exponentSign s).1 ++ (exponentSign s).2 := by
  unfold exponentSign
  split
  · exact ⟨false, rfl⟩
  · exact ⟨true, rfl⟩
  · exact ⟨false, rfl⟩

theorem exponent_cut {e : Option (Bool × List Char)}
    (h : ifNext isExponentSign exponentDigits s = .ok (e, t)) :
    (∀ x ∈ e, IsDigits x.2) ∧ ∃ capital plus, s = exponentText capital plus e ++ t := by
  cases hnext : s.head?.any isExponentSign with
  | false =>
    rw [ifNext_end hnext] at h
    cases h
    exact ⟨by simp, false, false, rfl⟩
  | true =>
    cases s with
    | nil => cases hnext
    | cons c rest =>
      have hc : isExponentSign c = true := by simpa using hnext
      obtain ⟨capital, rfl⟩ : ∃ capital, c = exponentLetter capital := by
        rcases (Bool.or_eq_true _ _).mp hc with hc | hc
        · exact ⟨false, beq_iff_eq.mp hc⟩
        · exact ⟨true, beq_iff_eq.mp hc⟩
      obtain ⟨x, hx, rfl⟩ := (ifNext_cons hc).mp h
      obtain ⟨hdigits, hsign⟩ := exponentDigits_eq_ok.mp hx
      obtain ⟨hne, hall, -, hrest⟩ := someDigits_eq_ok.mp hdigits
      obtain ⟨plus, hplus⟩ := exponentSign_cut rest
      rw [hsign, hrest] at hplus
      refine ⟨by rintro _ ⟨⟩; exact ⟨hne, hall⟩, capital, plus, ?_⟩
      rw [hplus, ← List.append_assoc]
      rfl

end Cut

/-- **The numbers are the texts of the proper spellings**, in both cases of the letter and with or without
a plus sign: whatever is read as a number to its end is one of these texts. -/
theorem spelling_iff_text {s : List Char} {d : Spelling} :
    spelling s = .ok (d, []) ↔ d.Proper ∧ ∃ capital plus, s = d.text capital plus := by
  constructor
  · intro h
    obtain ⟨u, hwhole, v, hfraction, hexponent⟩ := spelling_eq_ok.mp h
    obtain ⟨hdigits, hplain, rfl⟩ := wholeDigits_cut hwhole
    obtain ⟨hfractions, rfl⟩ := fraction_cut hfraction
    obtain ⟨hexponents, capital, plus, rfl⟩ := exponent_cut hexponent
    rw [List.append_nil]
    exact ⟨⟨hdigits, hplain, hfractions, hexponents⟩, capital, plus, rfl⟩
  · rintro ⟨hd, capital, plus, rfl⟩
    exact hd.spelling_text capital plus

end Json

/-! ## 2. The spelling of a decimal -/

open Json

/-- The digits of a natural number. -/
theorem isDigits_toDigits (n : Nat) : IsDigits (Nat.toDigits 10 n) :=
  ⟨Nat.toDigits_ne_nil, fun _ hc => Nat.isDigit_of_mem_toDigits (by decide) (by decide) hc⟩

/-- Only zero begins with a zero. -/
theorem head?_toDigits {n : Nat} (hn : 0 < n) : (Nat.toDigits 10 n).head? ≠ some '0' := by
  induction n using Nat.strong_induction_on with
  | _ n ih =>
  rw [Nat.toDigits_eq_if (by decide)]
  split
  · next hsmall =>
    have hdigits : ∀ k < 10, 0 < k → [Nat.digitChar k].head? ≠ some '0' := by decide
    exact hdigits n hsmall hn
  · next hlarge =>
    have hfirst := ih (n / 10) (by omega) (by omega)
    cases hrest : Nat.toDigits 10 (n / 10) with
    | nil => exact absurd hrest Nat.toDigits_ne_nil
    | cons c rest =>
      rw [hrest] at hfirst
      exact hfirst

theorem isDigit_of_mem_replicate {k : Nat} : ∀ c ∈ List.replicate k '0', c.isDigit = true := by
  intro c hc
  rw [List.eq_of_mem_replicate hc]
  rfl

namespace Layout

/-- The parts in which a decimal is written. -/
def spelled (layout : Layout) (d : Decimal) : Spelling :=
  let digits := Nat.toDigits 10 d.coefficient
  let lead := d.exponent + digits.length - 1
  if layout.least ≤ lead ∧ lead ≤ layout.greatest then
    if lead < 0 then ⟨['0'], some (List.replicate ((-lead).toNat - 1) '0' ++ digits), none⟩
    else
      let fraction := digits.drop (lead.toNat + 1)
      ⟨(digits ++ List.replicate (lead.toNat + 1 - digits.length) '0').take (lead.toNat + 1),
        some (if fraction.isEmpty then ['0'] else fraction), none⟩
  else
    ⟨digits.take 1, if digits.length ≤ 1 then none else some (digits.drop 1),
      some (decide (lead < 0), Nat.toDigits 10 lead.natAbs)⟩

/-- **A decimal is written as it is spelled.** -/
theorem write_spelled (layout : Layout) (d : Decimal) :
    layout.write d = (layout.spelled d).text false layout.plus := by
  unfold write spelled
  dsimp only
  split
  · unfold inPlace
    split
    · simp [Spelling.text, fractionText, exponentText]
    · simp [Spelling.text, fractionText, exponentText]
  · unfold withExponent
    split <;> simp [Spelling.text, fractionText, exponentText, exponentLetter, exponentSignText]

theorem proper_spelled (layout : Layout) {d : Decimal} (hd : 0 < d.coefficient) :
    (layout.spelled d).Proper := by
  have hdigits := isDigits_toDigits d.coefficient
  have hhead := head?_toDigits hd
  unfold spelled
  generalize Nat.toDigits 10 d.coefficient = digits at hdigits hhead ⊢
  have hrest (k : Nat) : ∀ c ∈ digits.drop k, c.isDigit = true :=
    fun c hc => hdigits.2 c (List.mem_of_mem_drop hc)
  dsimp only
  split
  · split
    · refine ⟨isDigits_zero, fun _ => rfl, ?_, by simp⟩
      rintro _ ⟨⟩
      refine ⟨by simp [hdigits.1], fun c hc => ?_⟩
      rcases List.mem_append.mp hc with hc | hc
      · exact isDigit_of_mem_replicate c hc
      · exact hdigits.2 c hc
    · refine ⟨(hdigits.append isDigit_of_mem_replicate).take _, fun h => absurd h ?_, ?_, by simp⟩
      · rw [List.head?_take, if_neg (Nat.succ_ne_zero _), List.head?_append,
          Option.or_of_isSome (List.isSome_head?.mpr hdigits.1)]
        exact hhead
      · rintro _ ⟨⟩
        split
        · exact isDigits_zero
        · next hmore => exact ⟨by simpa using hmore, hrest _⟩
  · refine ⟨hdigits.take 0, fun h => absurd h ?_, ?_, ?_⟩
    · rw [List.head?_take, if_neg Nat.one_ne_zero]
      exact hhead
    · intro ds hds
      split at hds
      · cases hds
      · next hmore =>
        cases hds
        exact ⟨fun hnone => hmore (List.drop_eq_nil_iff.mp hnone), hrest 1⟩
    · rintro _ ⟨⟩
      exact isDigits_toDigits _

end Layout

/-! ## 3. The number of a spelling -/

namespace Json

/-- A significand never exceeds its limit. -/
theorem absorb_le {n : Nat} (hn : n ≤ significandLimit) (ds : List Char) :
    (absorb n ds).1 ≤ significandLimit := by
  induction ds generalizing n with
  | nil => exact hn
  | cons d ds ih =>
    unfold absorb
    dsimp only
    split
    · next hm => exact ih hm
    · exact hn

theorem digit_le {c : Char} (hc : c.isDigit = true) : c.toNat - 48 ≤ 9 := by
  simp only [Char.isDigit, Bool.and_eq_true, decide_eq_true_eq, ge_iff_le] at hc
  have hnine : c.toNat ≤ 57 := hc.2
  omega

/-- No more digits than fit are all taken. -/
theorem absorb_fits {ds : List Char} (hds : ∀ c ∈ ds, c.isDigit = true) {n k : Nat}
    (hn : n < 10 ^ k) (hk : k + ds.length ≤ 19) : (absorb n ds).2 = [] := by
  induction ds generalizing n k with
  | nil => rfl
  | cons d ds ih =>
    obtain ⟨hd, hds⟩ := List.forall_mem_cons.mp hds
    have hdigit := digit_le hd
    have hnext : 10 * n + (d.toNat - 48) < 10 ^ (k + 1) := by
      rw [Nat.pow_succ]
      omega
    have hlimit : 10 ^ (k + 1) ≤ 10 ^ 19 :=
      Nat.pow_le_pow_right (by decide) (by rw [List.length_cons] at hk; omega)
    have hfits : 10 * n + (d.toNat - 48) ≤ significandLimit := by
      have hten : 10 ^ 19 ≤ significandLimit := by decide
      omega
    unfold absorb
    dsimp only
    rw [if_pos hfits]
    exact ih hds hnext (by rw [List.length_cons] at hk; omega)

end Json

namespace Binary

variable {f : Format}

theorem isFinite_ofPattern {s : Bool} {m : Nat} (h : m < f.infinity) :
    (ofPattern s m : Binary f).isFinite = true := by
  unfold ofPattern isFinite
  exact decide_eq_true (Nat.lt_of_le_of_lt (Nat.min_le_left _ _) h)

theorem ofNat_le {n k : Nat} (h : n ≤ k) :
    ∃ m : Fin (f.infinity + 1), (ofNat n : Binary f) = .number false m ∧
      m.val ≤ f.nearest (k * 2 ^ f.scale) 1 := by
  refine ⟨_, rfl, (Nat.min_le_left _ _).trans ?_⟩
  exact f.nearest_mono Nat.one_pos (Nat.mul_le_mul_right _ h)

/-- The product of naturals is finite if the product of their bounds is. -/
theorem mul_finite {n k n' k' : Nat} (h : n ≤ k) (h' : n' ≤ k')
    (hk : f.nearest (k * 2 ^ f.scale) 1 < f.infinity)
    (hk' : f.nearest (k' * 2 ^ f.scale) 1 < f.infinity)
    (hmul : f.nearest (f.units (f.nearest (k * 2 ^ f.scale) 1) *
      f.units (f.nearest (k' * 2 ^ f.scale) 1)) (Nat.pow 2 f.scale) < f.infinity) :
    ((ofNat n : Binary f).mul (ofNat n')).isFinite = true := by
  obtain ⟨m, hm, hle⟩ := ofNat_le (f := f) h
  obtain ⟨m', hm', hle'⟩ := ofNat_le (f := f) h'
  rw [hm, hm', mul_number (hle.trans_lt hk) (hle'.trans_lt hk')]
  refine isFinite_ofPattern (lt_of_le_of_lt ?_ hmul)
  exact f.nearest_mono (Nat.pow_pos (by decide))
    (Nat.mul_le_mul (f.units_mono hle) (f.units_mono hle'))

end Binary

namespace Json

/-- A significand times a power of ten up to 38 is finite. -/
theorem mul_powerOfTen_finite {significand k : Nat} (hs : significand ≤ significandLimit) (hk : k ≤ 38) :
    ((Binary.ofNat significand : Double).mul (powerOfTen k)).isFinite = true := by
  have hten : Nat.pow 10 k ≤ 10 ^ 38 := Nat.pow_le_pow_right (by decide) hk
  exact Binary.mul_finite hs hten (by decide +kernel) (by decide +kernel) (by decide +kernel)

/-- **A power up to 38 scales every significand.** -/
theorem scaled_eq_ok {significand : Nat} {power : Int} (hs : significand ≤ significandLimit)
    (hp : power ≤ 38) : ∃ x, scaled significand power = .ok x := by
  have hlimit : (powerLimit : Int) = 308 := rfl
  unfold scaled
  dsimp only
  split
  · exact ⟨_, rfl⟩
  · next hpos =>
    rw [if_pos (by omega), if_pos (mul_powerOfTen_finite hs (by omega))]
    exact ⟨_, rfl⟩

/-- A spelling that makes a number that is in range: a whole part that fits, and an exponent up to
38. -/
structure Spelling.Moderate (d : Spelling) : Prop where
  whole : d.whole.length ≤ 19
  real : d.fraction.isSome = true ∨ d.exponent.isSome = true
  exponent : ∀ e ∈ d.exponent, exponentValue e ≤ 38

theorem realNumber_eq_ok {negative : Bool} {significand : Nat} {power : Int}
    (hs : significand ≤ significandLimit) (hp : power ≤ 38) :
    ∃ x, realNumber negative significand power = .ok (.real x) := by
  obtain ⟨x, hx⟩ := scaled_eq_ok hs hp
  unfold realNumber
  rw [hx]
  exact ⟨_, rfl⟩

theorem Spelling.Moderate.number {d : Spelling} (h : d.Moderate) (hd : d.Proper) (negative : Bool) :
    ∃ x, d.number negative = .ok (.real x) := by
  have hdropped : (absorb 0 d.whole).2 = [] :=
    absorb_fits hd.whole.2 (k := 0) (by decide) (by rw [Nat.zero_add]; exact h.whole)
  have hwhole : (absorb 0 d.whole).1 ≤ significandLimit := absorb_le (Nat.zero_le _) _
  have hshift : (d.exponent.map exponentValue).getD 0 ≤ 38 := by
    cases hexponent : d.exponent with
    | none => decide
    | some e => exact h.exponent e hexponent
  unfold Spelling.number
  dsimp only
  rw [hdropped]
  cases hfraction : d.fraction with
  | some digits => exact realNumber_eq_ok (absorb_le hwhole _) (by simp; omega)
  | none =>
    have hexponent : d.exponent.isNone = false := by
      rcases h.real with hreal | hreal
      · rw [hfraction] at hreal
        cases hreal
      · simpa using hreal
    simp only [hexponent, Bool.false_eq_true, and_false, if_false, List.length_nil]
    exact realNumber_eq_ok hwhole (by omega)

end Json

/-! ## 4. Every written number is accepted -/

/-- The value of some digits. -/
theorem foldl_toDigits (n : Nat) :
    (Nat.toDigits 10 n).foldl (fun n d => 10 * n + (d.toNat - 48)) 0 = n := by
  induction n using Nat.strong_induction_on with
  | _ n ih =>
  rw [Nat.toDigits_eq_if (by decide)]
  split
  · next hsmall => simp [Nat.toNat_digitChar_of_lt_ten hsmall]
  · next hlarge =>
    have hlast : n % 10 < 10 := Nat.mod_lt n (by decide)
    rw [List.foldl_append, ih (n / 10) (by omega)]
    simp only [List.foldl_cons, List.foldl_nil, Nat.toNat_digitChar_of_lt_ten hlast]
    omega

/-- The exponent that is written is the place of the leading digit. -/
theorem exponentValue_lead (lead : Int) :
    exponentValue (decide (lead < 0), Nat.toDigits 10 lead.natAbs) = lead := by
  unfold exponentValue
  rw [foldl_toDigits]
  simp only [decide_eq_true_eq]
  split <;> omega

/-- A decimal whose leading digit is at the place 38 or behind it is written as a number in range. -/
theorem Layout.moderate_spelled (layout : Layout) (hgreatest : layout.greatest ≤ 18) {d : Decimal}
    (hlead : d.exponent + (Nat.toDigits 10 d.coefficient).length - 1 ≤ 38) :
    (layout.spelled d).Moderate := by
  unfold Layout.spelled
  generalize Nat.toDigits 10 d.coefficient = digits at hlead ⊢
  dsimp only
  split
  · next hplace =>
    split
    · exact ⟨by simp, .inl rfl, by simp⟩
    · refine ⟨?_, .inl rfl, by simp⟩
      rw [List.length_take]
      omega
  · refine ⟨?_, .inr rfl, ?_⟩
    · rw [List.length_take]
      omega
    · rintro _ ⟨⟩
      rw [exponentValue_lead]
      exact hlead

namespace Json

open Reader

theorem head_positive {c : Char} {s t : List Char} {n : Number} (hc : c.isDigit = true)
    (h : numeral false (c :: s) = .ok (n, t)) : head (c :: s) = .ok (.number n, t) := by
  have hne : ∀ x : Char, x.isDigit = false → c ≠ x := by
    rintro x hx rfl
    exact absurd hc (by simp [hx])
  have hblank : isBlank c = false := by
    simp [isBlank, hne ' ' rfl, hne '\t' rfl, hne '\n' rfl, hne '\r' rfl]
  unfold head
  rw [trimmed_cons hblank]
  dsimp only
  rw [if_neg (hne '"' rfl), if_neg (hne '[' rfl), if_neg (hne '\x7b' rfl), if_neg (hne '-' rfl),
    if_pos hc]
  exact map_eq_ok.mpr ⟨n, h, rfl⟩

theorem head_negative {s t : List Char} {n : Number} (h : numeral true s = .ok (n, t)) :
    head ('-' :: s) = .ok (.number n, t) := by
  unfold head
  rw [trimmed_cons (by decide)]
  exact map_eq_ok.mpr ⟨n, h, rfl⟩

/-- A proper spelling with a sign is read as the number that it makes, rounded once more. -/
theorem single_of_number {d : Spelling} (hd : d.Proper) (capital plus : Bool) {negative : Bool}
    {x : Double} (hx : d.number negative = .ok (.real x)) :
    Decoder.single.reader ((if negative then ['-'] else []) ++ d.text capital plus) =
      .ok (x.convert .single, []) := by
  have hnumeral : numeral negative (d.text capital plus) = .ok (.real x, []) :=
    numeral_eq_ok.mpr ⟨d, spelling_iff_text.mpr ⟨hd, capital, plus, rfl⟩, hx⟩
  have hhead : head ((if negative then ['-'] else []) ++ d.text capital plus) =
      .ok (.number (.real x), []) := by
    cases negative with
    | true => exact head_negative hnumeral
    | false =>
      cases htext : d.whole with
      | nil => exact absurd htext hd.whole.1
      | cons c rest =>
        have hc : c.isDigit = true := hd.whole.2 c (by rw [htext]; exact List.mem_cons_self)
        unfold Spelling.text at hnumeral ⊢
        rw [htext] at hnumeral ⊢
        exact head_positive hc hnumeral
  exact bind_eq_ok.mpr ⟨.number (.real x), [], hhead, rfl⟩

/-- A proper and moderate spelling with a sign is read as a number. -/
theorem single_of_spelling {d : Spelling} (hd : d.Proper) (hm : d.Moderate)
    (capital plus negative : Bool) : ∃ y,
      Decoder.single.reader ((if negative then ['-'] else []) ++ d.text capital plus) = .ok (y, []) := by
  obtain ⟨x, hx⟩ := hm.number hd negative
  exact ⟨x.convert .single, single_of_number hd capital plus hx⟩

/-- A finite number is written as its sign and zero, or as its sign and its shortest decimal. -/
theorem writeSingle_number {s : Bool} {m : Fin (Format.single.infinity + 1)}
    (hfin : m.val < Format.single.infinity) : writeSingle (.number s m) =
      (if s then ['-'] else []) ++
        if m.val = 0 then "0.0".toList
        else singleLayout.write (Format.single.shortest .even m) := by
  have hfinite : (Binary.number s m).isFinite = true := decide_eq_true hfin
  unfold writeSingle Layout.number
  rw [if_pos hfinite]
  dsimp only
  rw [if_neg hfin.ne]
  rfl

/-- **Every finite number is written so that it is accepted.** -/
theorem Decoder.single_written {x : Single} (hx : x.isFinite = true) :
    ∃ y, single.reader (writeSingle x) = .ok (y, []) := by
  cases x with
  | nan => cases hx
  | number s m =>
    have hfin : m.val < Format.single.infinity := of_decide_eq_true hx
    rw [writeSingle_number hfin]
    by_cases hzero : m.val = 0
    · have hproper : Spelling.Proper ⟨['0'], some ['0'], none⟩ :=
        ⟨isDigits_zero, fun _ => rfl, by rintro _ ⟨⟩; exact isDigits_zero, by simp⟩
      rw [if_pos hzero]
      exact single_of_spelling hproper ⟨by decide, .inl rfl, by simp⟩ false true s
    · have hpos : 0 < m.val := Nat.pos_of_ne_zero hzero
      rw [if_neg hzero, Layout.write_spelled]
      exact single_of_spelling (Layout.proper_spelled _ (Format.shortest_coefficient_pos _ _ hpos))
        (Layout.moderate_spelled _ (by decide) (Format.lead_le .even hpos hfin)) false _ s

end Json

end SoundEngine
