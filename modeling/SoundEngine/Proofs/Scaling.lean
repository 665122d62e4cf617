import SoundEngine.Json.Numeral
import SoundEngine.Proofs.Nearest

/-!
# How near a decimal is read

A decimal is read by two or three roundings in the 64-bit format: its significand is converted, the power
of ten is, and then the one is multiplied or divided by the other.  So the number that is read need not be
the nearest one.  But it is as near as that many roundings allow, and if the power is small and the
decimal is itself a number of the format then nothing is rounded at all (`scaled_close`).

Values are rationals here, for a product of roundings is no longer a comparison of whole numbers.

* §1 rounds one value.
* §2 is the arithmetic on finite numbers, by their values.
* §3 reads a decimal.
-/

namespace SoundEngine

open Json

/-! ## 1. One rounding -/

/-- The value of a finite pattern: so many units, of which `2 ^ f.scale` make 1. -/
def Format.value (f : Format) (m : Nat) : ℚ := f.units m / 2 ^ f.scale

namespace Binary

/-- `x` is the finite number, from zero on, of this value.  Infinities have none, and of the two zeros
only the one without a sign has one here. -/
def HasValue (x : Double) (v : ℚ) : Prop :=
  ∃ m : Fin (Format.double.infinity + 1), x = .number false m ∧ m.val < Format.double.infinity ∧
    Format.double.value m = v

/-- `w` is `v` after one rounding; what is a number of the format already is not changed. -/
structure Rounds (v w : ℚ) : Prop where
  close : |w - v| ≤ v / 2 ^ 53
  exact : ∀ a k : Nat, v * 2 ^ Format.double.scale = a * 2 ^ k → a < 2 ^ 53 → w = v

/-- The range in which results are neither too small nor too large. -/
def Moderate (v : ℚ) : Prop := 1 ≤ v * 2 ^ 240 ∧ v ≤ 2 ^ 240

theorem Moderate.pos {v : ℚ} (hv : Moderate v) : 0 < v := by
  have hlow := hv.1
  by_contra hneg
  have hle : v * 2 ^ 240 ≤ 0 := mul_nonpos_of_nonpos_of_nonneg (not_lt.mp hneg) (by positivity)
  linarith

section Nearest

variable {num den : Nat} {v : ℚ} (hden : 0 < den) (hv : Moderate v)
  (hnum : (num : ℚ) / den = v * 2 ^ Format.double.scale)

include hden hv hnum

/-- A moderate value is not among the subnormal ones. -/
theorem Moderate.normal : 2 ^ Format.double.fraction * den ≤ num := by
  have hsplit : (2 : ℚ) ^ Format.double.scale = 2 ^ 240 * 2 ^ 834 := by
    rw [← pow_add, show Format.double.scale = 240 + 834 from rfl]
  have hle : (2 : ℚ) ^ 52 * den ≤ num := by
    rw [← le_div_iff₀ (Nat.cast_pos.mpr hden), hnum, hsplit, ← mul_assoc]
    calc (2 : ℚ) ^ 52 ≤ 2 ^ 834 := pow_le_pow_right₀ (by norm_num) (by norm_num)
      _ ≤ v * 2 ^ 240 * 2 ^ 834 := le_mul_of_one_le_left (by positivity) hv.1
  exact_mod_cast hle

/-- So it is rounded by a small part of itself. -/
theorem Moderate.close : |(Format.double.units (Format.double.rounded num den) : ℚ) -
    v * 2 ^ Format.double.scale| ≤ v * 2 ^ Format.double.scale / 2 ^ 53 := by
  rw [← hnum]
  exact Format.units_rounded_close hden (hv.normal hden hnum)

/-- And it is not rounded to infinity, which is further away than that. -/
theorem Moderate.finite : Format.double.rounded num den < Format.double.infinity := by
  have hscale : (0 : ℚ) < 2 ^ Format.double.scale := by positivity
  have hclose := hv.close hden hnum
  by_contra hle
  have hinf : Format.double.units Format.double.infinity = 2 ^ 1024 * 2 ^ Format.double.scale := by
    decide +kernel
  have hmono := Format.double.units_mono (Nat.not_lt.mp hle)
  rw [hinf] at hmono
  have hlt : (2 : ℚ) * 2 ^ 240 < 2 ^ 1024 := by
    rw [← pow_succ']
    exact pow_lt_pow_right₀ (by norm_num) (by norm_num)
  refine absurd ?_ (not_le.mpr (mul_lt_mul_of_pos_right hlt hscale))
  calc (2 : ℚ) ^ 1024 * 2 ^ Format.double.scale
      ≤ Format.double.units (Format.double.rounded num den) := by exact_mod_cast hmono
    _ ≤ v * 2 ^ Format.double.scale / 2 ^ 53 + v * 2 ^ Format.double.scale :=
        sub_le_iff_le_add.mp (abs_le.mp hclose).2
    _ ≤ v * 2 ^ Format.double.scale + v * 2 ^ Format.double.scale :=
        add_le_add_left (div_le_self (mul_nonneg hv.pos.le hscale.le) (by norm_num)) _
    _ = 2 * v * 2 ^ Format.double.scale := by ring
    _ ≤ 2 * 2 ^ 240 * 2 ^ Format.double.scale :=
        mul_le_mul_of_nonneg_right (mul_le_mul_of_nonneg_left hv.2 (by norm_num)) hscale.le

/-- **The nearest number to a moderate value** is one rounding away from it. -/
theorem hasValue_nearest :
    ∃ w, HasValue (.ofPattern false (Format.double.nearest num den)) w ∧ Rounds v w := by
  have hscale : (0 : ℚ) < 2 ^ Format.double.scale := by positivity
  have hfinite := hv.finite hden hnum
  have hnearest : Format.double.nearest num den = Format.double.rounded num den :=
    Nat.min_eq_left hfinite.le
  refine ⟨Format.double.value (Format.double.rounded num den), ⟨⟨_, Nat.lt_succ_of_lt hfinite⟩, ?_,
    hfinite, rfl⟩, ?_, ?_⟩
  · rw [hnearest]
    exact congrArg (number false) (Fin.ext (Nat.min_eq_left hfinite.le))
  · have hvalue : Format.double.value (Format.double.rounded num den) - v =
        (Format.double.units (Format.double.rounded num den) - v * 2 ^ Format.double.scale) /
          2 ^ Format.double.scale := by
      rw [sub_div, mul_div_cancel_right₀ _ hscale.ne']
      rfl
    rw [hvalue, abs_div, abs_of_pos hscale, div_le_iff₀ hscale, div_mul_eq_mul_div]
    exact hv.close hden hnum
  · -- a value with few binary digits is a number of the format, and so nothing is lost
    intro a k ha hsmall
    have hwhole : num = a * 2 ^ k * den := by
      rw [ha, div_eq_iff (Nat.cast_pos.mpr hden).ne'] at hnum
      exact_mod_cast hnum
    unfold Format.value
    rw [Format.units_rounded_exact hden hsmall hwhole, div_eq_iff hscale.ne', ha]
    push_cast
    rfl

end Nearest

/-! ## 2. Arithmetic -/

variable {x y : Double} {v w : ℚ}

/-- A natural number is converted. -/
theorem hasValue_ofNat {n : Nat} (hn : Moderate n) :
    ∃ w, HasValue (ofNat n) w ∧ Rounds n w := by
  refine hasValue_nearest Nat.one_pos hn ?_
  rw [Nat.cast_one, div_one, Nat.pow_eq, Nat.cast_mul, Nat.cast_pow, Nat.cast_two]

/-- A small one is not changed. -/
theorem hasValue_small {n : Nat} (hn : n < 2 ^ 53) : HasValue (ofNat n) n := by
  rcases Nat.eq_zero_or_pos n with rfl | hpos
  · refine ⟨0, ?_, by decide, ?_⟩
    · unfold ofNat ofRatio
      rw [Nat.zero_mul, Format.nearest_zero]
      rfl
    · simp [Format.value, Format.units_zero]
  · have hleast : (1 : ℚ) ≤ n := by exact_mod_cast hpos
    have hmost : (n : ℚ) ≤ 2 ^ 53 := by exact_mod_cast hn.le
    obtain ⟨w, hw, hrounds⟩ := hasValue_ofNat (n := n) ⟨by linarith, by linarith⟩
    rwa [hrounds.exact n Format.double.scale rfl hn] at hw

/-- A product is the nearest number to the product of the values. -/
theorem HasValue.mul_nearest (hx : HasValue x v) (hy : HasValue y w) :
    ∃ num den : Nat, 0 < den ∧ x.mul y = .ofPattern false (Format.double.nearest num den) ∧
      (num : ℚ) / den = v * w * 2 ^ Format.double.scale := by
  obtain ⟨m, rfl, hm, rfl⟩ := hx
  obtain ⟨n, rfl, hn, rfl⟩ := hy
  have hden : 0 < Nat.pow 2 Format.double.scale := by
    rw [Nat.pow_eq]
    exact Nat.pow_pos (by decide)
  refine ⟨Format.double.units m * Format.double.units n, _, hden, ?_, ?_⟩
  · rw [mul_number hm hn, bne_self_eq_false]
  · unfold Format.value
    rw [Nat.pow_eq, Nat.cast_mul, Nat.cast_pow, Nat.cast_two]
    field_simp

/-- A quotient is the nearest number to the quotient of the values. -/
theorem HasValue.div_nearest (hx : HasValue x v) (hy : HasValue y w) (hw : 0 < w) :
    ∃ num den : Nat, 0 < den ∧ x.div y = .ofPattern false (Format.double.nearest num den) ∧
      (num : ℚ) / den = v / w * 2 ^ Format.double.scale := by
  obtain ⟨m, rfl, hm, rfl⟩ := hx
  obtain ⟨n, rfl, hn, rfl⟩ := hy
  have hunits : 0 < Format.double.units n := by
    refine Nat.pos_of_ne_zero fun hzero => ?_
    simp [Format.value, hzero] at hw
  have hn0 : 0 < n.val := by
    refine Nat.pos_of_ne_zero fun hzero => ?_
    rw [hzero, Format.units_zero] at hunits
    exact absurd hunits (Nat.lt_irrefl 0)
  refine ⟨Format.double.units m * 2 ^ Format.double.scale, _, hunits, ?_, ?_⟩
  · rw [div_number hn0 hn, Format.quotient, if_neg hm.ne, Nat.pow_eq]
  · unfold Format.value
    rw [Nat.cast_mul, Nat.cast_pow, Nat.cast_two]
    have hunits' : (Format.double.units n : ℚ) ≠ 0 := by exact_mod_cast hunits.ne'
    field_simp

theorem HasValue.mul (hx : HasValue x v) (hy : HasValue y w) (h : Moderate (v * w)) :
    ∃ z, HasValue (x.mul y) z ∧ Rounds (v * w) z := by
  obtain ⟨num, den, hden, hmul, hvalue⟩ := hx.mul_nearest hy
  rw [hmul]
  exact hasValue_nearest hden h hvalue

theorem HasValue.div (hx : HasValue x v) (hy : HasValue y w) (hw : 0 < w) (h : Moderate (v / w)) :
    ∃ z, HasValue (x.div y) z ∧ Rounds (v / w) z := by
  obtain ⟨num, den, hden, hdiv, hvalue⟩ := hx.div_nearest hy hw
  rw [hdiv]
  exact hasValue_nearest hden h hvalue

end Binary

namespace Json

open Binary

/-! ## 3. Decimals -/

section Errors

variable {c w p v : ℚ} (hc : 0 < c) (hp : 0 < p) (hw : |w - p| ≤ p / 2 ^ 53)

include hc hp hw

/-- A rounded factor, and a rounded product. -/
theorem mul_close (hv : |v - c * w| ≤ c * w / 2 ^ 53) : |v - c * p| ≤ c * p / (2 ^ 52 - 1) := by
  obtain ⟨hlow, hhigh⟩ := abs_le.mp hw
  obtain ⟨hlow', hhigh'⟩ := abs_le.mp hv
  have hpos : 0 < c * p := mul_pos hc hp
  have hleast : c * (p - p / 2 ^ 53) ≤ c * w := mul_le_mul_of_nonneg_left (by linarith) hc.le
  have hmost : c * w ≤ c * (p + p / 2 ^ 53) := mul_le_mul_of_nonneg_left (by linarith) hc.le
  rw [abs_le]
  constructor <;> linarith

/-- A rounded divisor, and a rounded quotient. -/
theorem div_close (hv : |v - c / w| ≤ c / w / 2 ^ 53) : |v - c / p| ≤ c / p / (2 ^ 52 - 1) := by
  obtain ⟨hlow, hhigh⟩ := abs_le.mp hw
  obtain ⟨hlow', hhigh'⟩ := abs_le.mp hv
  have hwpos : 0 < w := by linarith
  have hpos : 0 < c / p := div_pos hc hp
  have hsame : c / w * (w / p) = c / p := by field_simp
  have hleast : c / w * (1 - 1 / 2 ^ 53) ≤ c / p := by
    rw [← hsame]
    refine mul_le_mul_of_nonneg_left ?_ (div_pos hc hwpos).le
    rw [le_div_iff₀ hp]
    linarith
  have hmost : c / p ≤ c / w * (1 + 1 / 2 ^ 53) := by
    rw [← hsame]
    refine mul_le_mul_of_nonneg_left ?_ (div_pos hc hwpos).le
    rw [div_le_iff₀ hp]
    linarith
  rw [abs_le]
  constructor <;> linarith

end Errors

/-- A power of ten is converted; a small one without an error. -/
theorem hasValue_powerOfTen {k : Nat} (hk : k ≤ 60) : ∃ w, HasValue (powerOfTen k) w ∧
    |w - 10 ^ k| ≤ 10 ^ k / 2 ^ 53 ∧ (k ≤ 22 → w = 10 ^ k) := by
  have hmoderate : Moderate ((10 ^ k : Nat) : ℚ) := by
    have hone : (1 : ℚ) ≤ 10 ^ k := one_le_pow₀ (by norm_num)
    have hle : (10 : ℚ) ^ k ≤ 10 ^ 60 := pow_le_pow_right₀ (by norm_num) hk
    rw [Nat.cast_pow, Nat.cast_ofNat]
    constructor <;> linarith
  obtain ⟨w, hw, hrounds⟩ := hasValue_ofNat hmoderate
  rw [Nat.cast_pow, Nat.cast_ofNat] at hrounds
  refine ⟨w, hw, hrounds.close, fun hsmall => hrounds.exact (5 ^ k) (k + Format.double.scale) ?_ ?_⟩
  · rw [Nat.cast_pow, Nat.cast_ofNat, pow_add, ← mul_assoc, ← mul_pow]
    norm_num
  · calc 5 ^ k ≤ 5 ^ 22 := Nat.pow_le_pow_right (by decide) hsmall
      _ < 2 ^ 53 := by decide

/-- With a negative power a significand is divided once, if the power is not too small. -/
theorem scaled_of_neg {c : Nat} {e : Int} (he : e < 0) (he' : -308 ≤ e) :
    scaled c e = .ok ((ofNat c).div (powerOfTen e.natAbs)) := by
  have hnat : (-e).toNat = e.natAbs := by omega
  have hlimit : e.natAbs ≤ powerLimit := by
    unfold powerLimit
    omega
  unfold scaled divideDown
  dsimp only
  rw [if_pos he, hnat, if_pos hlimit]

/-- With another one it is multiplied. -/
theorem scaled_of_nonneg {c : Nat} {e : Int} (he : 0 ≤ e) (he' : e ≤ 308)
    (hfinite : ((ofNat c : Double).mul (powerOfTen e.natAbs)).isFinite = true) :
    scaled c e = .ok ((ofNat c).mul (powerOfTen e.natAbs)) := by
  have hnat : e.toNat = e.natAbs := by omega
  have hlimit : e ≤ (powerLimit : Int) := by
    unfold powerLimit
    omega
  unfold scaled
  dsimp only
  rw [if_neg (not_lt.mpr he), hnat, if_pos hlimit, if_pos hfinite]

/-- **A decimal is read with an error of hardly more than two roundings**, and without any if its power is
small and it is itself a number. -/
theorem scaled_close {c : Nat} {e : Int} (hc : 0 < c) (hc' : c < 2 ^ 53) (he : -60 ≤ e) (he' : e ≤ 40) :
    ∃ x v, scaled c e = .ok x ∧ HasValue x v ∧ |v - c * 10 ^ e| ≤ c * 10 ^ e / (2 ^ 52 - 1) ∧
      (-22 ≤ e → e ≤ 22 → ∀ a k : Nat,
        (c * 10 ^ e : ℚ) * 2 ^ Format.double.scale = a * 2 ^ k → a < 2 ^ 53 → v = c * 10 ^ e) := by
  have hc₁ : (1 : ℚ) ≤ c := by exact_mod_cast hc
  have hc₂ : (c : ℚ) ≤ 2 ^ 53 := by exact_mod_cast hc'.le
  have hcvalue := hasValue_small hc'
  -- the power itself is rounded, unless it is small
  obtain ⟨w, hw, hclose, hsmall⟩ := hasValue_powerOfTen (k := e.natAbs) (by omega)
  have hone : (1 : ℚ) ≤ 10 ^ e.natAbs := one_le_pow₀ (by norm_num)
  have hten : (0 : ℚ) < 10 ^ e.natAbs := by positivity
  obtain ⟨hlow, hhigh⟩ := abs_le.mp hclose
  have hwpos : 0 < w := by linarith
  rcases lt_or_ge e 0 with hneg | hpos
  · have hpower : (c : ℚ) * 10 ^ e = c / 10 ^ e.natAbs := by
      rw [div_eq_mul_inv, ← zpow_natCast, ← zpow_neg]
      congr 2
      omega
    have hmoderate : Moderate (c / w) := by
      have hle : (10 : ℚ) ^ e.natAbs ≤ 10 ^ 60 := pow_le_pow_right₀ (by norm_num) (by omega)
      constructor
      · rw [div_mul_eq_mul_div, le_div_iff₀ hwpos]
        linarith
      · rw [div_le_iff₀ hwpos]
        linarith
    obtain ⟨v, hv, hrounds⟩ := hcvalue.div hw hwpos hmoderate
    refine ⟨_, v, ?_, hv, ?_, fun he₁ _ a k ha hsmall' => ?_⟩
    · exact scaled_of_neg hneg (by omega)
    · rw [hpower]
      exact div_close (by linarith) hten hclose hrounds.close
    · rw [hsmall (by omega)] at hrounds
      rw [hpower] at ha ⊢
      exact hrounds.exact a k ha hsmall'
  · have hpower : (c : ℚ) * 10 ^ e = c * 10 ^ e.natAbs := by
      rw [← zpow_natCast]
      congr 2
      omega
    have hmoderate : Moderate (c * w) := by
      have hle : (10 : ℚ) ^ e.natAbs ≤ 10 ^ 40 := pow_le_pow_right₀ (by norm_num) (by omega)
      have hleast : w ≤ c * w := le_mul_of_one_le_left hwpos.le hc₁
      have hmost : c * w ≤ 2 ^ 53 * w := mul_le_mul_of_nonneg_right hc₂ hwpos.le
      constructor <;> linarith
    obtain ⟨v, hv, hrounds⟩ := hcvalue.mul hw hmoderate
    refine ⟨_, v, ?_, hv, ?_, fun _ he₂ a k ha hsmall' => ?_⟩
    · refine scaled_of_nonneg hpos (by omega) ?_
      obtain ⟨m, hm, hfin, -⟩ := hv
      rw [hm]
      exact decide_eq_true hfin
    · rw [hpower]
      exact mul_close (by linarith) hten hclose hrounds.close
    · rw [hsmall (by omega)] at hrounds
      rw [hpower] at ha ⊢
      exact hrounds.exact a k ha hsmall'

end Json

end SoundEngine
