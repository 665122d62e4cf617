import SoundEngine.Proofs.Shortest

/-!
# What it means to be nearest

A pattern is nearest to a quotient if the quotient lies between the middles to the two neighbours of the
pattern; a middle itself belongs to the even one of two neighbours.  There is exactly one such pattern
(`Nearest.unique`), and it is the one that is computed (`nearest_rounded`).  So whether a number is read
as it was written is a question of where its written form lies between two middles.

* §1 has the distances of neighbours.  They differ by a factor of two on the two sides of a power of two.
* §2 shows that the nearest pattern is computed.  Just above a power of two the lower middle is nearer
  than rounding to whole units accounts for; there the quotient cannot be below the power itself.
* §3 says how far the nearest value is away (`units_rounded_close`), and when it is not away at all.
-/

namespace SoundEngine

/-- A quotient is rounded by at most a half, and a half is rounded to the even one. -/
theorem roundHalfEven_spec (num : Nat) {den : Nat} (hden : 0 < den) :
    2 * (roundHalfEven num den * den) ≤ 2 * num + den ∧
      2 * num ≤ 2 * (roundHalfEven num den * den) + den ∧
      (roundHalfEven num den % 2 = 1 → 2 * (roundHalfEven num den * den) < 2 * num + den ∧
        2 * num < 2 * (roundHalfEven num den * den) + den) := by
  have hnum : den * (num / den) + num % den = num := Nat.div_add_mod num den
  have hmod : num % den < den := Nat.mod_lt num hden
  have hstep : (num / den + 1) * den = den * (num / den) + den := by
    rw [Nat.add_mul, Nat.one_mul, Nat.mul_comm]
  have hzero : (num / den + 0) * den = den * (num / den) := by
    rw [Nat.add_zero, Nat.mul_comm]
  unfold roundHalfEven
  dsimp only
  split_ifs with hlow hhigh
  · rw [Nat.mul_comm (num / den)]
    omega
  · rw [hstep]
    omega
  · -- a tie
    rcases Nat.mod_two_eq_zero_or_one (num / den) with heven | hodd
    · rw [heven, hzero]
      omega
    · rw [hodd, hstep]
      omega

namespace Format

variable (f : Format)

/-! ## 1. Distances -/

/-- The distance from a pattern to the next one. -/
def gap (m : Nat) : Nat := 2 ^ (m / 2 ^ f.fraction - 1)

theorem gap_pos (m : Nat) : 0 < f.gap m := Nat.pow_pos (by decide)

/-- A rounded quotient with its unit doubled `k` times. -/
theorem units_shift {k r : Nat} (hk : k = 0 ∨ 2 ^ f.fraction ≤ r) (hr : r ≤ 2 * 2 ^ f.fraction) :
    f.units (k * 2 ^ f.fraction + r) = r * 2 ^ k := by
  have hpos : 0 < 2 ^ f.fraction := Nat.pow_pos (by decide)
  unfold units
  simp only [Nat.pow_eq]
  rw [Nat.mul_comm k, Nat.mul_add_div hpos, Nat.mul_add_mod]
  generalize 2 ^ f.fraction = p at hpos hk hr ⊢
  rcases Nat.lt_or_ge r p with hlow | hlow
  · obtain rfl : k = 0 := hk.resolve_right (Nat.not_le.mpr hlow)
    simp [Nat.div_eq_of_lt hlow, Nat.mod_eq_of_lt hlow]
  · rcases Nat.lt_or_eq_of_le hr with hhigh | rfl
    · have hdiv : r / p = 1 := Nat.div_eq_of_lt_le (by omega) (by omega)
      have hmod : r % p = r - p := by
        rw [Nat.mod_eq_sub_mod hlow, Nat.mod_eq_of_lt (by omega)]
      rw [hdiv, hmod, if_neg (Nat.succ_ne_zero k), Nat.add_sub_cancel, Nat.add_sub_cancel' hlow]
    · rw [Nat.mul_div_cancel _ hpos, Nat.mul_mod_left, if_neg (by omega), Nat.add_zero,
        show k + 2 - 1 = k + 1 from rfl, Nat.pow_succ', ← Nat.mul_assoc, Nat.mul_comm p]

/-- The exponent and the fraction of a pattern. -/
theorem exists_units (m : Nat) : ∃ k r, m = k * 2 ^ f.fraction + r ∧ r < 2 * 2 ^ f.fraction ∧
    (k = 0 ∨ 2 ^ f.fraction ≤ r) ∧ f.gap m = 2 ^ k := by
  have hpos : 0 < 2 ^ f.fraction := Nat.pow_pos (by decide)
  have hm := Nat.div_add_mod' m (2 ^ f.fraction)
  have hmod := Nat.mod_lt m hpos
  unfold gap
  cases he : m / 2 ^ f.fraction with
  | zero =>
    rw [he, Nat.zero_mul] at hm
    exact ⟨0, m, by omega, by omega, .inl rfl, rfl⟩
  | succ e =>
    rw [he, Nat.succ_mul] at hm
    exact ⟨e, 2 ^ f.fraction + m % 2 ^ f.fraction, by omega, by omega, .inr (by omega), rfl⟩

/-- **A pattern and the next one differ by the distance.** -/
theorem units_succ (m : Nat) : f.units (m + 1) = f.units m + f.gap m := by
  obtain ⟨k, r, rfl, hr, hk, hgap⟩ := f.exists_units m
  rw [hgap, Nat.add_assoc, f.units_shift hk hr.le,
    f.units_shift (hk.imp_right fun h => Nat.le_succ_of_le h) hr, Nat.succ_mul]

/-! ## 2. The nearest pattern -/

/-- The pattern `m` is nearest to `num / den` units. -/
structure Nearest (m num den : Nat) : Prop where
  low : (f.units (m - 1) + f.units m) * den ≤ 2 * num
  high : 2 * num ≤ (f.units m + f.units (m + 1)) * den
  odd : m % 2 = 1 → (f.units (m - 1) + f.units m) * den < 2 * num ∧
    2 * num < (f.units m + f.units (m + 1)) * den

/-- The nearest pattern, as if there were no greatest one. -/
def rounded (num den : Nat) : Nat :=
  f.shift num den * 2 ^ f.fraction + roundHalfEven num (den * 2 ^ f.shift num den)

theorem nearest_eq_min (num den : Nat) : f.nearest num den = min (f.rounded num den) f.infinity := rfl

variable {f} {m m' num den : Nat}

/-- **Only one pattern is nearest.** -/
theorem Nearest.unique (hden : 0 < den) (h : f.Nearest m num den) (h' : f.Nearest m' num den) :
    m = m' := by
  have hle : ∀ {m m'}, f.Nearest m num den → f.Nearest m' num den → ¬ m < m' := by
    intro m m' h h' hlt
    -- the upper middle of the one is not above the lower middle of the other
    have hmiddles : f.units m + f.units (m + 1) ≤ f.units (m' - 1) + f.units m' :=
      Nat.add_le_add (f.units_mono (by omega)) (f.units_mono hlt)
    have hsame := (h.high.trans (Nat.mul_le_mul_right den hmiddles)).antisymm h'.low
    have hsum : f.units m + f.units (m + 1) = f.units (m' - 1) + f.units m' :=
      Nat.le_antisymm hmiddles (Nat.le_of_mul_le_mul_right (h'.low.trans h.high) hden)
    have hnext : m' = m + 1 := by
      by_contra hne
      have hfirst := f.units_lt_units (show m < m' - 1 by omega)
      have hsecond := f.units_lt_units (show m + 1 < m' by omega)
      omega
    subst hnext
    rcases Nat.mod_two_eq_zero_or_one m with heven | hodd
    · have hstrict := (h'.odd (by omega)).1
      omega
    · have hstrict := (h.odd hodd).2
      rw [hsum] at hstrict
      omega
  exact Nat.le_antisymm (Nat.not_lt.mp (hle h' h)) (Nat.not_lt.mp (hle h h'))

theorem le_gap {k : Nat} (h : k = 0 ∨ (k + 1) * 2 ^ f.fraction ≤ m) : 2 ^ k ≤ f.gap m := by
  rcases h with rfl | h
  · exact f.gap_pos m
  · have hdiv : k + 1 ≤ m / 2 ^ f.fraction :=
      (Nat.le_div_iff_mul_le (Nat.pow_pos (by decide))).mpr h
    exact Nat.pow_le_pow_right (by decide) (by omega)

section Rounded

variable (num) (hden : 0 < den)

include hden

theorem unit_pos : 0 < den * 2 ^ f.shift num den := Nat.mul_pos hden (Nat.pow_pos (by decide))

/-- With its unit doubled, a quotient is rounded to a pattern that has this unit. -/
theorem first_le_rounded : f.shift num den = 0 ∨
    2 ^ f.fraction ≤ roundHalfEven num (den * 2 ^ f.shift num den) :=
  (Nat.eq_zero_or_pos _).imp_right fun h =>
    le_roundHalfEven (unit_pos num hden) (f.le_of_shift_pos hden h)

/-- The rounded quotient counts doubled units. -/
theorem units_rounded : f.units (f.rounded num den) * den =
    roundHalfEven num (den * 2 ^ f.shift num den) * (den * 2 ^ f.shift num den) := by
  rw [rounded, f.units_shift (first_le_rounded num hden)
    (roundHalfEven_le (unit_pos num hden) (f.le_of_shift num hden)), Nat.mul_assoc, Nat.mul_comm den]

/-- The next pattern is at least a doubled unit away. -/
theorem gap_above : den * 2 ^ f.shift num den ≤ f.gap (f.rounded num den) * den := by
  rw [Nat.mul_comm den]
  refine Nat.mul_le_mul_right den (le_gap ((first_le_rounded num hden).imp_right fun h => ?_))
  rw [rounded, Nat.succ_mul]
  exact Nat.add_le_add_left h _

/-- So is the one before, unless the pattern is the first with this unit; then the quotient is not below
its value. -/
theorem gap_below : den * 2 ^ f.shift num den ≤ f.gap (f.rounded num den - 1) * den ∨
    f.units (f.rounded num den) * den ≤ num := by
  rcases Nat.eq_zero_or_pos (f.shift num den) with hzero | hshift
  · left
    rw [hzero, Nat.pow_zero, Nat.mul_one]
    exact Nat.le_mul_of_pos_left den (f.gap_pos _)
  · have hfirst := le_roundHalfEven (unit_pos num hden) (f.le_of_shift_pos hden hshift)
    rcases Nat.lt_or_eq_of_le hfirst with hlt | heq
    · left
      rw [Nat.mul_comm den]
      refine Nat.mul_le_mul_right den (le_gap (.inr ?_))
      rw [rounded, Nat.succ_mul]
      simp only [Nat.pow_eq] at hlt
      omega
    · right
      rw [units_rounded num hden]
      exact heq ▸ f.le_of_shift_pos hden hshift

/-- **The rounded quotient is nearest.** -/
theorem nearest_rounded (hfraction : 0 < f.fraction) : f.Nearest (f.rounded num den) num den := by
  obtain ⟨habove, hbelow, hodd⟩ := roundHalfEven_spec num (unit_pos (f := f) num hden)
  have hparity : f.rounded num den % 2 =
      roundHalfEven num (den * 2 ^ f.shift num den) % 2 := by
    obtain ⟨b, hb⟩ := Nat.exists_eq_succ_of_ne_zero hfraction.ne'
    rw [rounded, hb, Nat.pow_succ, ← Nat.mul_assoc, Nat.mul_comm, Nat.mul_add_mod]
  rw [← units_rounded num hden] at habove hbelow hodd
  rw [← hparity] at hodd
  have hnext := gap_above (f := f) num hden
  have hhigh : (f.units (f.rounded num den) + f.units (f.rounded num den + 1)) * den =
      2 * (f.units (f.rounded num den) * den) + f.gap (f.rounded num den) * den := by
    rw [units_succ]
    ring
  rcases Nat.eq_zero_or_pos (f.rounded num den) with hzero | hm
  · exact ⟨by simp [hzero, units_zero], by omega, fun h => absurd h (by simp [hzero])⟩
  · have hprev := gap_below (f := f) num hden
    have hpositive : 0 < f.gap (f.rounded num den - 1) * den := Nat.mul_pos (f.gap_pos _) hden
    have hlow : (f.units (f.rounded num den - 1) + f.units (f.rounded num den)) * den +
        f.gap (f.rounded num den - 1) * den = 2 * (f.units (f.rounded num den) * den) := by
      have hunits : f.units (f.rounded num den) =
          f.units (f.rounded num den - 1) + f.gap (f.rounded num den - 1) := by
        rw [← units_succ, Nat.sub_add_cancel hm]
      rw [hunits]
      ring
    refine ⟨?_, ?_, fun h => ?_⟩ <;> omega

end Rounded

/-- **What is nearest is computed**, up to the greatest pattern. -/
theorem Nearest.eq (h : f.Nearest m num den) (hfraction : 0 < f.fraction) (hden : 0 < den)
    (hm : m ≤ f.infinity) : f.nearest num den = m := by
  rw [nearest_eq_min, (nearest_rounded num hden hfraction).unique hden h]
  exact Nat.min_eq_left hm

/-- A decimal rounds to the pattern that is nearest to it. -/
theorem roundsTo_iff {c : Nat} {e : Int} : f.roundsTo m c e = true ↔
    f.Nearest m (c * 10 ^ e.toNat * 2 ^ f.scale) (10 ^ (-e).toNat) := by
  have hvalue : c * 10 ^ e.toNat * 2 ^ (f.scale + 1) = 2 * (c * 10 ^ e.toNat * 2 ^ f.scale) := by
    rw [Nat.pow_succ]
    ring
  unfold roundsTo
  simp only [Nat.pow_eq, hvalue]
  constructor
  · intro h
    split at h <;> simp only [Bool.and_eq_true, decide_eq_true_eq] at h
    · exact ⟨h.1, h.2, by omega⟩
    · exact ⟨h.1.le, h.2.le, fun _ => h⟩
  · intro h
    split <;> simp only [Bool.and_eq_true, decide_eq_true_eq]
    · exact ⟨h.low, h.high⟩
    · exact h.odd (by omega)

/-! ## 3. How near it is -/

/-- **A quotient in the normal range is rounded by at most one part in `2 ^ (fraction + 1)`.** -/
theorem units_rounded_close (hden : 0 < den) (hnormal : 2 ^ f.fraction * den ≤ num) :
    |(f.units (f.rounded num den) : ℚ) - num / den| ≤ num / den / 2 ^ (f.fraction + 1) := by
  obtain ⟨habove, hbelow, -⟩ := roundHalfEven_spec num (unit_pos (f := f) num hden)
  rw [← units_rounded num hden] at habove hbelow
  have hunit : 2 ^ f.fraction * (den * 2 ^ f.shift num den) ≤ num := by
    rcases Nat.eq_zero_or_pos (f.shift num den) with hzero | hshift
    · rw [hzero, Nat.pow_zero, Nat.mul_one]
      exact hnormal
    · exact f.le_of_shift_pos hden hshift
  generalize f.units (f.rounded num den) = u at habove hbelow ⊢
  generalize den * 2 ^ f.shift num den = unit at habove hbelow hunit
  have hpos : (0 : ℚ) < den := Nat.cast_pos.mpr hden
  have hhalf : |(u : ℚ) * den - num| ≤ unit / 2 := by
    have habove' : (2 : ℚ) * (u * den) ≤ 2 * num + unit := by exact_mod_cast habove
    have hbelow' : (2 : ℚ) * num ≤ 2 * (u * den) + unit := by exact_mod_cast hbelow
    rw [abs_le]
    constructor <;> linarith
  have hunit' : (unit : ℚ) / 2 ≤ num / 2 ^ (f.fraction + 1) := by
    have hle : (2 : ℚ) ^ f.fraction * unit ≤ num := by exact_mod_cast hunit
    rw [div_le_div_iff₀ (by positivity) (by positivity), pow_succ]
    linarith
  calc |(u : ℚ) - num / den| = |(u : ℚ) * den - num| / den := by
        rw [← abs_of_pos hpos, ← abs_div, sub_div, abs_of_pos hpos, mul_div_cancel_right₀ _ hpos.ne']
    _ ≤ num / 2 ^ (f.fraction + 1) / den := by
        exact div_le_div_of_nonneg_right (hhalf.trans hunit') hpos.le
    _ = num / den / 2 ^ (f.fraction + 1) := div_right_comm _ _ _

/-- A quotient that is a number of the format is not rounded. -/
theorem units_rounded_exact {a k : Nat} (hden : 0 < den) (ha : a < 2 * 2 ^ f.fraction)
    (hnum : num = a * 2 ^ k * den) : f.units (f.rounded num den) = a * 2 ^ k := by
  have hquot : num / den = a * 2 ^ k := by rw [hnum, Nat.mul_div_cancel _ hden]
  have hshift : f.shift num den ≤ k := by
    have hlt : a * 2 ^ k < 2 ^ (f.fraction + k + 1) := by
      calc a * 2 ^ k < 2 * 2 ^ f.fraction * 2 ^ k :=
            Nat.mul_lt_mul_of_pos_right ha (Nat.pow_pos (by decide))
        _ = 2 ^ (f.fraction + k + 1) := by ring
    unfold shift
    rw [hquot]
    rcases Nat.eq_zero_or_pos (a * 2 ^ k) with hzero | hpos
    · simp [hzero]
    · have hlog := (Nat.log2_lt hpos.ne').mpr hlt
      omega
  have hvalue := units_rounded (f := f) num hden
  generalize f.shift num den = s at hshift hvalue
  obtain ⟨j, rfl⟩ := Nat.exists_eq_add_of_le hshift
  have hwhole : num = a * 2 ^ j * (den * 2 ^ s) := by
    rw [hnum, Nat.pow_add]
    ring
  have hround : roundHalfEven num (den * 2 ^ s) = a * 2 ^ j := by
    rw [hwhole]
    exact roundHalfEven_mul _ (Nat.mul_pos hden (Nat.pow_pos (by decide)))
  rw [hround, ← hwhole] at hvalue
  exact Nat.eq_of_mul_eq_mul_right hden (hvalue.trans hnum)

end Format

end SoundEngine
