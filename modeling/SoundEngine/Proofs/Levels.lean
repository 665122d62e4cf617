import SoundEngine.Mix.Level
import SoundEngine.Proofs.Rounding

/-!
# Every level is in its range

Volumes, rates, gains and pans come from outside and can be anything, not-a-number and the infinities
too.  They pass one of three clamps before they are used, which treat not-a-number each in its own
way; what leaves them is in range for whatever came in.

A factor is a percentage that was clamped and then divided by a hundred, and the quotient is rounded.
The ends of the ranges are divided without an error, and rounding keeps the order, so the factor is
between the factors of the ends (`ofPercent_within`).
-/

namespace SoundEngine.Level

open Binary

/-! ## 1. Gains and pans -/

theorem unit_range : (whole 0).le (whole 1) = true := by decide

theorem gain_eq_clamp {x : Single} (h : x.isNaN = false) :
    gain x = x.clamp (whole 0) (whole 1) := by
  unfold gain
  rw [h]
  rfl

/-- **A gain is in its range.** -/
theorem gain_within (x : Single) : Within (whole 0) (whole 1) (gain x) := by
  cases hx : x.isNaN with
  | true =>
    unfold gain
    rw [if_pos hx]
    decide
  | false =>
    rw [gain_eq_clamp hx]
    exact within_clamp hx unit_range

/-- A gain that was clamped before it was given is the gain that was meant. -/
theorem gain_clamp (x : Single) : gain (x.clamp (whole 0) (whole 1)) = gain x := by
  cases hx : x.isNaN with
  | true =>
    unfold gain
    rw [isNaN_clamp unit_range, if_pos hx, if_pos hx]
  | false =>
    rw [gain_eq_clamp ((isNaN_clamp unit_range x).trans hx), gain_eq_clamp hx,
      clamp_clamp unit_range]

/-- To bring a gain into its range twice is to do it once. -/
@[simp] theorem gain_gain (x : Single) : gain (gain x) = gain x := by
  cases hx : x.isNaN with
  | true =>
    have hzero : gain x = .zero := if_pos hx
    rw [hzero]
    decide
  | false => rw [gain_eq_clamp hx, gain_clamp, gain_eq_clamp hx]

/-- **A pan is in its range.** -/
theorem pan_within (x : Single) : Within (whole (-1)) (whole 1) (pan x) := by
  unfold pan
  split
  case isTrue => decide
  case isFalse h => exact within_clamp (Bool.eq_false_iff.mpr h) (by decide)

/-! ## 2. Factors -/

/-- The rate at half speed. -/
def half : Single := Binary.ofRatio false 1 2

/-- A hundred is a positive number, with an end. -/
theorem hundred_eq : ∃ d : Fin (Format.single.infinity + 1), whole 100 = .number false d ∧
    0 < Format.single.units d ∧ d.val < Format.single.infinity :=
  ⟨⟨0x42c80000, by decide⟩, by decide, by decide, by decide⟩

/-- **A factor is between the factors of the ends.** -/
theorem ofPercent_within {unset low high : Single} (hunset : unset.isNaN = false)
    (h : low.le high = true) (percent : Option Single) :
    Within (low.div (whole 100)) (high.div (whole 100)) (ofPercent unset low high percent) := by
  obtain ⟨d, hd, hpos, hfin⟩ := hundred_eq
  have hgiven : ∀ given : Single, given.isNaN = false →
      Within (low.div (whole 100)) (high.div (whole 100))
        ((given.clamp low high).div (whole 100)) := by
    intro given hnumber
    obtain ⟨hlow, hhigh⟩ := within_clamp hnumber h
    rw [hd]
    exact ⟨div_le_div hpos hfin hlow, div_le_div hpos hfin hhigh⟩
  unfold ofPercent
  refine hgiven _ ?_
  cases percent with
  | none => exact hunset
  | some x =>
    dsimp only
    split
    case isTrue => exact hunset
    case isFalse hx => exact Bool.eq_false_iff.mpr hx

/-- **A volume is in its range.** -/
theorem volumeFactor_within (percent : Option Single) :
    Within (whole 0) (whole 1) (volumeFactor percent) := by
  have h : Within ((whole 0).div (whole 100)) ((whole 100).div (whole 100)) (volumeFactor percent) :=
    ofPercent_within (by decide) (by decide) percent
  have hlow : (whole 0).div (whole 100) = whole 0 := by decide
  have hhigh : (whole 100).div (whole 100) = whole 1 := by decide
  rw [hlow, hhigh] at h
  exact h

/-- **A rate is in its range.** -/
theorem rateFactor_within (percent : Option Single) :
    Within half (whole 2) (rateFactor percent) := by
  have h : Within ((whole 50).div (whole 100)) ((whole 200).div (whole 100)) (rateFactor percent) :=
    ofPercent_within (by decide) (by decide) percent
  have hlow : (whole 50).div (whole 100) = half := by decide
  have hhigh : (whole 200).div (whole 100) = whole 2 := by decide
  rw [hlow, hhigh] at h
  exact h

/-! ## 3. A volume scaled by a gain -/

/-- **The product of two levels is a level**: it is a number, and neither less than zero nor more than
one, however it was rounded. -/
theorem mul_within_unit {x y : Single} (hx : Within (whole 0) (whole 1) x)
    (hy : Within (whole 0) (whole 1) y) : Within (whole 0) (whole 1) (x.mul y) := by
  have hzero : whole 0 = (.zero : Single) := by decide
  have hone : whole 1 = (.number false ⟨0x3f800000, by decide⟩ : Single) := by decide
  rw [hzero, hone] at hx hy ⊢
  exact mul_within (by decide) (by decide) hx hy

end SoundEngine.Level
