import SoundEngine.Proofs.Fewest
import SoundEngine.Proofs.Numerals
import SoundEngine.Proofs.Scaling

/-!
# The significand of a written decimal

The reader makes a significand of all the digits that it sees, and a power of ten of their places and of
the exponent.  For a decimal that was written these are the coefficient and the exponent it was written
from, whether its point stands in place or not (`Layout.decimal_spelled`).  There is one exception.  A whole
number is written in place with zeros behind its digits, and with one more behind the point; then the zeros
belong to the significand.

A shortest decimal has few digits and a moderate exponent, so that its significand is exact and its value
is read as nearly as `scaled_close` says (`shortest_read`).  A small significand with a small power is read
as the nearest number (`scaled_nearest`); in general it is not.

* §1 is the number that a list of digits stands for.
* §2 has the significand and the power, §3 the number.
-/

namespace SoundEngine

namespace Json

/-! ## 1. Digits -/

/-- The number that is made of another one by appending digits. -/
def appendDigits (n : Nat) (ds : List Char) : Nat := ds.foldl (fun n d => 10 * n + (d.toNat - 48)) n

theorem appendDigits_append (n : Nat) (ds es : List Char) :
    appendDigits n (ds ++ es) = appendDigits (appendDigits n ds) es := List.foldl_append

theorem appendDigits_toDigits (n : Nat) : appendDigits 0 (Nat.toDigits 10 n) = n := foldl_toDigits n

theorem appendDigits_zeros (n k : Nat) : appendDigits n (List.replicate k '0') = n * 10 ^ k := by
  induction k generalizing n with
  | zero => exact (Nat.mul_one n).symm
  | succ k ih =>
    have hstep : appendDigits n (List.replicate (k + 1) '0') =
        appendDigits (10 * n) (List.replicate k '0') := rfl
    rw [hstep, ih, Nat.pow_succ]
    ring

theorem le_appendDigits (n : Nat) (ds : List Char) : n ≤ appendDigits n ds := by
  induction ds generalizing n with
  | nil => exact Nat.le_refl n
  | cons d ds ih =>
    have hstep : n ≤ 10 * n + (d.toNat - 48) := by omega
    exact hstep.trans (ih _)

/-- Digits whose number fits are all appended. -/
theorem absorb_eq {n : Nat} {ds : List Char} (h : appendDigits n ds ≤ significandLimit) :
    absorb n ds = (appendDigits n ds, []) := by
  induction ds generalizing n with
  | nil => rfl
  | cons d ds ih =>
    have hrest : appendDigits (10 * n + (d.toNat - 48)) ds ≤ significandLimit := h
    unfold absorb
    dsimp only
    rw [if_pos ((le_appendDigits _ ds).trans hrest)]
    exact ih hrest

/-! ## 2. Significand and power -/

namespace Spelling

variable (d : Spelling)

/-- The digits behind the point. -/
def places : List Char := d.fraction.getD []

/-- The decimal that is spelled. -/
def decimal : Decimal where
  coefficient := appendDigits 0 (d.whole ++ d.places)
  exponent := (d.exponent.map exponentValue).getD 0 - d.places.length

/-- What the reader keeps of it: the digits that fit.  Those of the whole part that do not fit still
count as places. -/
def kept : Decimal :=
  let (n, dropped) := absorb 0 d.whole
  let (m, unread) := absorb n d.places
  ⟨m, (dropped.length : Int) - (d.places.length - unread.length : Nat) +
    (d.exponent.map exponentValue).getD 0⟩

variable {d}

/-- **A spelling with a point or an exponent makes the number of what is kept.** -/
theorem number_kept (hreal : d.fraction.isSome = true ∨ d.exponent.isSome = true) (negative : Bool) :
    d.number negative = realNumber negative d.kept.coefficient d.kept.exponent := by
  obtain ⟨whole, fraction, exponent⟩ := d
  cases fraction with
  | some digits => rfl
  | none =>
    have hexponent : exponent.isNone = false := by simpa using hreal
    unfold number kept places
    dsimp only
    rw [hexponent, if_neg (by simp)]
    simp [absorb]

/-- If all digits fit then all is kept. -/
theorem kept_eq (hfits : d.decimal.coefficient ≤ significandLimit) : d.kept = d.decimal := by
  unfold decimal at hfits
  rw [appendDigits_append] at hfits
  unfold kept decimal
  rw [absorb_eq ((le_appendDigits _ _).trans hfits)]
  dsimp only
  rw [absorb_eq hfits, appendDigits_append]
  simp only [List.length_nil, Decimal.mk.injEq, true_and]
  omega

end Spelling

section Forms

variable {digits : List Char} {k : Nat}

/-- Zeros in front of the digits do not count. -/
theorem decimal_zeros_before : Spelling.decimal ⟨['0'], some (List.replicate k '0' ++ digits), none⟩ =
    ⟨appendDigits 0 digits, -(k + digits.length : Nat)⟩ := by
  have hvalue : appendDigits 0 (['0'] ++ (List.replicate k '0' ++ digits)) = appendDigits 0 digits := by
    rw [appendDigits_append, appendDigits_append, appendDigits_zeros]
    exact congrArg (appendDigits · digits) (Nat.zero_mul _)
  unfold Spelling.decimal Spelling.places
  dsimp only [Option.getD_some]
  rw [hvalue]
  simp

/-- A point among the digits only lowers the exponent. -/
theorem decimal_point (w : Nat) (e : Option (Bool × List Char)) :
    Spelling.decimal ⟨digits.take w, some (digits.drop w), e⟩ =
      ⟨appendDigits 0 digits, (e.map exponentValue).getD 0 - (digits.length - w : Nat)⟩ := by
  simp [Spelling.decimal, Spelling.places]

/-- Zeros behind the digits do count. -/
theorem decimal_zeros_behind : Spelling.decimal ⟨digits ++ List.replicate k '0', some ['0'], none⟩ =
    ⟨appendDigits 0 digits * 10 ^ (k + 1), -1⟩ := by
  have hvalue : appendDigits 0 (digits ++ List.replicate k '0' ++ ['0']) =
      appendDigits 0 digits * 10 ^ (k + 1) := by
    rw [show ['0'] = List.replicate 1 '0' from rfl, appendDigits_append, appendDigits_append,
      appendDigits_zeros, appendDigits_zeros, Nat.mul_assoc, ← Nat.pow_add]
  unfold Spelling.decimal Spelling.places
  dsimp only [Option.getD_some]
  rw [hvalue]
  rfl

/-- One digit in front of the point, and an exponent. -/
theorem decimal_leading (e : Bool × List Char) : Spelling.decimal
      ⟨digits.take 1, if digits.length ≤ 1 then none else some (digits.drop 1), some e⟩ =
    ⟨appendDigits 0 digits, exponentValue e - (digits.length - 1 : Nat)⟩ := by
  split
  · next hone =>
    rw [List.take_of_length_le hone, Nat.sub_eq_zero_of_le hone]
    simp [Spelling.decimal, Spelling.places]
  · exact decimal_point 1 (some e)

end Forms

end Json

open Json

/-- **A written decimal spells itself**, but for the zeros of a whole number. -/
theorem Layout.decimal_spelled (layout : Layout) (d : Decimal) :
    ∃ j : Nat, (layout.spelled d).decimal = ⟨d.coefficient * 10 ^ j, d.exponent - j⟩ ∧
      (j = 0 ∨ d.exponent - j = -1 ∧ d.coefficient * 10 ^ j ≤ 10 ^ (layout.greatest.toNat + 2)) := by
  have hvalue := appendDigits_toDigits d.coefficient
  have hlarge : d.coefficient < 10 ^ (Nat.toDigits 10 d.coefficient).length :=
    (Nat.length_toDigits_le_iff (by decide) Nat.length_toDigits_pos).mp le_rfl
  have hlength : 0 < (Nat.toDigits 10 d.coefficient).length := Nat.length_toDigits_pos
  unfold spelled
  generalize Nat.toDigits 10 d.coefficient = digits at hvalue hlarge hlength ⊢
  dsimp only
  generalize hlead : d.exponent + digits.length - 1 = lead
  -- without an exponent the digits stand where the point wants them, or zeros fill the gap
  by_cases hplace : layout.least ≤ lead ∧ lead ≤ layout.greatest
  · rw [if_pos hplace]
    by_cases hneg : lead < 0
    · rw [if_pos hneg, decimal_zeros_before, hvalue]
      refine ⟨0, ?_, .inl rfl⟩
      rw [Nat.pow_zero, Nat.mul_one]
      congr 1
      omega
    · rw [if_neg hneg]
      rcases Nat.lt_or_ge (lead.toNat + 1) digits.length with hpoint | hpoint
      · have hfraction : (digits.drop (lead.toNat + 1)).isEmpty = false := by
          rw [List.isEmpty_eq_false_iff, ne_eq, List.drop_eq_nil_iff]
          omega
        rw [hfraction, if_neg Bool.false_ne_true, List.take_append_of_le_length hpoint.le, decimal_point,
          hvalue, Option.map_none, Option.getD_none]
        refine ⟨0, ?_, .inl rfl⟩
        rw [Nat.pow_zero, Nat.mul_one]
        congr 1
        omega
      · obtain ⟨k, hk⟩ := Nat.exists_eq_add_of_le hpoint
        have hfraction : (digits.drop (lead.toNat + 1)).isEmpty = true := by
          rw [List.isEmpty_iff, List.drop_eq_nil_iff]
          exact hpoint
        have htake : (digits ++ List.replicate k '0').take (digits.length + k) =
            digits ++ List.replicate k '0' := by
          refine List.take_of_length_le (Nat.le_of_eq ?_)
          rw [List.length_append, List.length_replicate]
        rw [hfraction, if_pos rfl, hk, Nat.add_sub_cancel_left, htake, decimal_zeros_behind, hvalue]
        refine ⟨k + 1, ?_, .inr ⟨by omega, ?_⟩⟩
        · congr 1
          omega
        · calc d.coefficient * 10 ^ (k + 1)
              ≤ 10 ^ digits.length * 10 ^ (k + 1) := Nat.mul_le_mul_right _ hlarge.le
            _ = 10 ^ (digits.length + (k + 1)) := (Nat.pow_add ..).symm
            _ ≤ 10 ^ (layout.greatest.toNat + 2) := Nat.pow_le_pow_right (by decide) (by omega)
  · rw [if_neg hplace, decimal_leading, exponentValue_lead, hvalue]
    refine ⟨0, ?_, .inl rfl⟩
    rw [Nat.pow_zero, Nat.mul_one]
    congr 1
    omega

/-- What is spelled has a point or an exponent. -/
theorem Layout.real_spelled (layout : Layout) (d : Decimal) :
    (layout.spelled d).fraction.isSome = true ∨ (layout.spelled d).exponent.isSome = true := by
  unfold spelled
  dsimp only
  split
  · split
    · exact .inl rfl
    · exact .inl rfl
  · exact .inr rfl

/-! ## 3. The number -/

/-- The value of a decimal. -/
def Decimal.value (d : Decimal) : ℚ := d.coefficient * 10 ^ d.exponent

/-- The number that is nearest to a decimal: the quotient of two whole numbers, rounded once. -/
def Decimal.rounded (d : Decimal) (f : Format) (negative : Bool) : Binary f :=
  .ofRatio negative (d.coefficient * 10 ^ d.exponent.toNat) (10 ^ (-d.exponent).toNat)

/-- It is a given finite number if and only if the decimal rounds to its pattern. -/
theorem Decimal.rounded_eq_iff {f : Format} (hfraction : 0 < f.fraction) {d : Decimal} {negative : Bool}
    {m : Fin (f.infinity + 1)} (hfin : m.val < f.infinity) :
    d.rounded f negative = .number negative m ↔ f.roundsTo m d.coefficient d.exponent = true := by
  have hden : 0 < 10 ^ (-d.exponent).toNat := Nat.pow_pos (by decide)
  have hnearest : d.rounded f negative = .number negative m ↔
      f.nearest (d.coefficient * 10 ^ d.exponent.toNat * 2 ^ f.scale) (10 ^ (-d.exponent).toNat) = m := by
    unfold Decimal.rounded Binary.ofRatio Binary.ofPattern
    rw [Binary.number.injEq, Fin.ext_iff, Nat.pow_eq]
    simp only [true_and, Nat.min_eq_left (f.nearest_le _ _)]
  rw [hnearest, Format.roundsTo_iff]
  constructor
  · intro h
    have hrounded : f.rounded (d.coefficient * 10 ^ d.exponent.toNat * 2 ^ f.scale)
        (10 ^ (-d.exponent).toNat) = m := by
      rw [Format.nearest_eq_min] at h
      omega
    rw [← hrounded]
    exact Format.nearest_rounded _ hden hfraction
  · exact fun h => h.eq hfraction hden hfin.le

section Exact

open Binary

variable {x y : Double} {v w : ℚ} {num den : Nat}

theorem ofRatio_eq {num' den' : Nat} (hden : 0 < den) (hden' : 0 < den')
    (h : (num' : ℚ) / den' = num / den * 2 ^ Format.double.scale) :
    (ofPattern false (Format.double.nearest num' den') : Double) = ofRatio false num den := by
  refine congrArg (ofPattern false) (Format.nearest_congr (by decide) hden' hden ?_)
  rw [h, Nat.pow_eq, Nat.cast_mul, Nat.cast_pow, Nat.cast_two, div_mul_eq_mul_div]

theorem Binary.HasValue.mul_eq (hx : HasValue x v) (hy : HasValue y w) (hden : 0 < den)
    (h : v * w = num / den) : x.mul y = ofRatio false num den := by
  obtain ⟨num', den', hden', hmul, hvalue⟩ := hx.mul_nearest hy
  rw [hmul]
  exact ofRatio_eq hden hden' (h ▸ hvalue)

theorem Binary.HasValue.div_eq (hx : HasValue x v) (hy : HasValue y w) (hw : 0 < w) (hden : 0 < den)
    (h : v / w = num / den) : x.div y = ofRatio false num den := by
  obtain ⟨num', den', hden', hdiv, hvalue⟩ := hx.div_nearest hy hw
  rw [hdiv]
  exact ofRatio_eq hden hden' (h ▸ hvalue)

/-- **A small significand with a small power is read as the nearest number.** -/
theorem scaled_nearest {d : Decimal} (hd : d.coefficient < 2 ^ 53) (he : -22 ≤ d.exponent)
    (he' : d.exponent ≤ 22) : scaled d.coefficient d.exponent = .ok (d.rounded .double false) := by
  have hcoefficient := hasValue_small hd
  obtain ⟨w, hpower, -, hexact⟩ := hasValue_powerOfTen (k := d.exponent.natAbs) (by omega)
  obtain rfl := hexact (by omega)
  have hten : (0 : ℚ) < 10 ^ d.exponent.natAbs := by positivity
  rcases lt_or_ge d.exponent 0 with hneg | hpos
  · rw [scaled_of_neg hneg (by omega)]
    refine congrArg Except.ok (hcoefficient.div_eq hpower hten (Nat.pow_pos (by decide)) ?_)
    have hnat : (-d.exponent).toNat = d.exponent.natAbs := by omega
    rw [hnat, Int.toNat_eq_zero.mpr hneg.le, Nat.pow_zero, Nat.mul_one, Nat.cast_pow, Nat.cast_ofNat]
  · have hmul : (ofNat d.coefficient : Double).mul (powerOfTen d.exponent.natAbs) =
        d.rounded .double false := by
      refine hcoefficient.mul_eq hpower (Nat.pow_pos (by decide)) ?_
      have hnat : d.exponent.toNat = d.exponent.natAbs := by omega
      rw [hnat, Int.toNat_eq_zero.mpr (by omega : -d.exponent ≤ 0), Nat.pow_zero, Nat.cast_one, div_one,
        Nat.cast_mul, Nat.cast_pow, Nat.cast_ofNat]
    rw [← hmul]
    exact scaled_of_nonneg hpos (by omega) (mul_powerOfTen_finite (hd.le.trans (by decide)) (by omega))

end Exact

/-- The value `v` is as near to the decimal as it is read.  If the power of ten is small and the decimal is
a number of the 64-bit format then it is the decimal itself. -/
structure Approximates (v : ℚ) (d : Decimal) : Prop where
  close : |v - d.value| ≤ d.value / (2 ^ 52 - 1)
  exact : -22 ≤ d.exponent → d.exponent ≤ 22 → ∀ a k : Nat,
    d.value * 2 ^ Format.double.scale = a * 2 ^ k → a < 2 ^ 53 → v = d.value

theorem Approximates.scaled {v u : ℚ} {d : Decimal} (h : Approximates v d) (hu : 0 < u) :
    |v * u - d.value * u| ≤ d.value * u / (2 ^ 52 - 1) := by
  rw [← sub_mul, abs_mul, abs_of_pos hu, ← div_mul_eq_mul_div]
  exact mul_le_mul_of_nonneg_right h.close hu.le

/-- **A moderate decimal is read as it was written, but for two roundings.** -/
theorem Decimal.read_spelled {d : Decimal} (hd : 0 < d.coefficient) (hd' : d.coefficient < 10 ^ 9)
    (hlow : -46 ≤ d.exponent) (hhigh : d.exponent ≤ 38) (negative : Bool) :
    ∃ x v, (singleLayout.spelled d).number negative = .ok (.real (if negative then x.neg else x)) ∧
      Binary.HasValue x v ∧ Approximates v d := by
  obtain ⟨j, hspelled, hj⟩ := singleLayout.decimal_spelled d
  have hten : 0 < 10 ^ j := Nat.pow_pos (by decide)
  have hsmall : d.coefficient * 10 ^ j < 2 ^ 53 := by
    rcases hj with rfl | ⟨-, hle⟩
    · omega
    · exact hle.trans_lt (by decide)
  have hfits : (singleLayout.spelled d).decimal.coefficient ≤ significandLimit := by
    rw [hspelled]
    exact hsmall.le.trans (by decide)
  obtain ⟨x, v, hscaled, hvalue, hclose, hexact⟩ := scaled_close (e := d.exponent - j)
    (Nat.mul_pos hd hten) hsmall (by omega) (by omega)
  have hsame : ((d.coefficient * 10 ^ j : Nat) : ℚ) * 10 ^ (d.exponent - j) = d.value := by
    rw [Decimal.value, zpow_sub₀ (by norm_num), zpow_natCast]
    push_cast
    field_simp
  rw [hsame] at hclose hexact
  refine ⟨x, v, ?_, hvalue, hclose, fun he he' => hexact (by omega) (by omega)⟩
  rw [Spelling.number_kept (singleLayout.real_spelled d), Spelling.kept_eq hfits, hspelled]
  unfold realNumber
  rw [hscaled]

/-- A shortest decimal has at most nine digits. -/
theorem shortest_coefficient_lt {m : Nat} (hm : 0 < m) :
    (Format.single.shortest .even m).coefficient < 10 ^ 9 :=
  calc (Format.single.shortest .even m).coefficient
      ≤ 40 * 2 ^ Format.single.fraction := Format.shortest_coefficient_le .even hm
    _ < 10 ^ 9 := by decide

/-- **A shortest decimal is moderate.** -/
theorem shortest_read {m : Nat} (hm : 0 < m) (hfin : m < Format.single.infinity) (negative : Bool) :
    ∃ x v, (singleLayout.spelled (Format.single.shortest .even m)).number negative =
        .ok (.real (if negative then x.neg else x)) ∧
      Binary.HasValue x v ∧ Approximates v (Format.single.shortest .even m) := by
  have hlead := Format.lead_le .even hm hfin
  have hlength : 0 < (Nat.toDigits 10 (Format.single.shortest .even m).coefficient).length :=
    Nat.length_toDigits_pos
  exact Decimal.read_spelled (Format.single.shortest_coefficient_pos .even hm)
    (shortest_coefficient_lt hm) (Format.single_exponent_ge .even hm) (by omega) negative

/-! ## 4. Every number that is read is finite -/

section Finite

open Binary

variable {x y : Double} {v w : ℚ}

theorem hasValue_ofPattern {m : Nat} (hm : m < Format.double.infinity) :
    HasValue (ofPattern false m) (Format.double.value m) :=
  ⟨⟨m, Nat.lt_succ_of_lt hm⟩, congrArg (number false) (Fin.ext (Nat.min_eq_left hm.le)), hm, rfl⟩

/-- A pattern is nearest to its own value. -/
theorem nearest_own {f : Format} (hfraction : 0 < f.fraction) {m den : Nat} (hden : 0 < den)
    (hm : m ≤ f.infinity) : f.nearest (f.units m * den) den = m := by
  have hdouble : 2 * (f.units m * den) = (f.units m + f.units m) * den := by ring
  have hprev : f.units (m - 1) ≤ f.units m := f.units_mono (Nat.sub_le m 1)
  have hnext : f.units m < f.units (m + 1) := f.units_lt_units (Nat.lt_succ_self m)
  refine Format.Nearest.eq ⟨?_, ?_, fun hodd => ⟨?_, ?_⟩⟩ hfraction hden hm
  · rw [hdouble]
    exact Nat.mul_le_mul_right den (by omega)
  · rw [hdouble]
    exact Nat.mul_le_mul_right den (by omega)
  · have hlt : f.units (m - 1) < f.units m := f.units_lt_units (by omega)
    rw [hdouble]
    exact Nat.mul_lt_mul_of_pos_right (by omega) hden
  · rw [hdouble]
    exact Nat.mul_lt_mul_of_pos_right (by omega) hden

theorem ofNat_eq {f : Format} (n : Nat) :
    (ofNat n : Binary f) = ofPattern false (f.nearest (n * 2 ^ f.scale) 1) := rfl

/-- A natural number that is not too large is finite. -/
theorem hasValue_ofNat_le {n k : Nat} (hn : n ≤ k)
    (hk : Format.double.nearest (k * 2 ^ Format.double.scale) 1 < Format.double.infinity) :
    HasValue (ofNat n) (Format.double.value (Format.double.nearest (n * 2 ^ Format.double.scale) 1)) := by
  have hle : Format.double.nearest (n * 2 ^ Format.double.scale) 1 ≤
      Format.double.nearest (k * 2 ^ Format.double.scale) 1 :=
    Format.double.nearest_mono Nat.one_pos (Nat.mul_le_mul_right _ hn)
  rw [ofNat_eq]
  exact hasValue_ofPattern (hle.trans_lt hk)

theorem value_mul {f : Format} {m : Nat} : f.value m * 2 ^ f.scale = f.units m :=
  div_mul_cancel₀ _ (by positivity)

theorem one_le_value_iff {f : Format} {m : Nat} : 1 ≤ f.value m ↔ 2 ^ f.scale ≤ f.units m := by
  rw [Format.value, one_le_div (by positivity)]
  exact_mod_cast Iff.rfl

/-- The greatest power of ten is finite. -/
theorem powerLimit_finite : Format.double.nearest (10 ^ powerLimit * 2 ^ Format.double.scale) 1 <
    Format.double.infinity := by
  decide +kernel

theorem units_one : Format.double.units (Format.double.nearest (1 * 2 ^ Format.double.scale) 1) =
    2 ^ Format.double.scale := by
  decide +kernel

/-- A power of ten up to 308 is finite, and at least one. -/
theorem hasValue_power {k : Nat} (hk : k ≤ powerLimit) : ∃ w, HasValue (powerOfTen k) w ∧ 1 ≤ w := by
  have hone : 1 ≤ 10 ^ k := Nat.pow_pos (by decide)
  have hten : 10 ^ k ≤ 10 ^ powerLimit := Nat.pow_le_pow_right (by decide) hk
  unfold powerOfTen
  rw [Nat.pow_eq]
  refine ⟨_, hasValue_ofNat_le hten powerLimit_finite, one_le_value_iff.mpr (units_one.symm.le.trans ?_)⟩
  exact Format.double.units_mono (Format.double.nearest_mono Nat.one_pos (Nat.mul_le_mul_right _ hone))

/-- What is divided by a number from one on does not become greater. -/
theorem nearest_le {f : Format} (hfraction : 0 < f.fraction) {num den m : Nat} (hden : 0 < den)
    (hm : m ≤ f.infinity) (hw : 1 ≤ w) (h : (num : ℚ) / den = f.value m / w * 2 ^ f.scale) :
    f.nearest num den ≤ m := by
  have hpos : 0 ≤ f.value m := by
    unfold Format.value
    positivity
  have hle : (num : ℚ) / den ≤ f.units m :=
    calc (num : ℚ) / den = f.value m / w * 2 ^ f.scale := h
      _ ≤ f.value m * 2 ^ f.scale := mul_le_mul_of_nonneg_right (div_le_self hpos hw) (by positivity)
      _ = f.units m := value_mul
  have hnum : num ≤ f.units m * den := by
    rw [div_le_iff₀ (Nat.cast_pos.mpr hden)] at hle
    exact_mod_cast hle
  calc f.nearest num den ≤ f.nearest (f.units m * den) den := f.nearest_mono hden hnum
    _ = m := nearest_own hfraction hden hm

/-- A quotient by a number from one on is finite. -/
theorem Binary.HasValue.div_finite (hx : HasValue x v) (hy : HasValue y w) (hw : 1 ≤ w) :
    ∃ z, HasValue (x.div y) z := by
  obtain ⟨num, den, hden, hdiv, hvalue⟩ := hx.div_nearest hy (one_pos.trans_le hw)
  obtain ⟨m, rfl, hm, rfl⟩ := hx
  rw [hdiv]
  exact ⟨_, hasValue_ofPattern ((nearest_le (by decide) hden hm.le hw hvalue).trans_lt hm)⟩

theorem divideDown_finite (steps power : Nat) (hx : HasValue x v) :
    ∃ w, HasValue (divideDown steps x power) w := by
  induction steps generalizing x v power with
  | zero => exact ⟨v, hx⟩
  | succ steps ih =>
    unfold divideDown
    split
    · next hpower =>
      obtain ⟨w, hw, hone⟩ := hasValue_power hpower
      exact hx.div_finite hw hone
    · split
      · exact ⟨v, hx⟩
      · obtain ⟨w, hw, hone⟩ := hasValue_power (Nat.le_refl powerLimit)
        obtain ⟨z, hz⟩ := hx.div_finite hw hone
        exact ih _ hz

/-- **A significand and a power that make a number make a finite one.** -/
theorem scaled_finite {c : Nat} {e : Int} (hc : c ≤ significandLimit) (h : scaled c e = .ok x) :
    ∃ v, HasValue x v := by
  have hv := hasValue_ofNat_le hc (by decide +kernel)
  unfold scaled at h
  dsimp only at h
  split at h
  · cases h
    exact divideDown_finite _ _ hv
  · split at h
    · next hpower =>
      split at h
      · next hfinite =>
        obtain ⟨w, hw, -⟩ := hasValue_power (k := e.toNat) (by omega)
        obtain ⟨num, den, -, hmul, -⟩ := hv.mul_nearest hw
        cases h
        rw [hmul] at hfinite ⊢
        exact ⟨_, hasValue_ofPattern ((min_lt_iff.mp (of_decide_eq_true hfinite)).resolve_right
          (lt_irrefl _))⟩
      · cases h
    · split at h
      · cases h
        exact ⟨_, hv⟩
      · cases h

end Finite

end SoundEngine
