import SoundEngine.Proofs.Middles
import SoundEngine.Proofs.Reloading
import SoundEngine.Proofs.RoundTrip
import SoundEngine.Proofs.Significands

/-!
# Every finite number survives

A 32-bit number is written by its shortest decimal, and the decimal is read by way of a 64-bit number.  The
shortest decimal rounds to the number if it is rounded once.  But it is rounded three times, and next to a
middle the first two roundings could take it to the other side.

They do not.  On a fine grid the shortest decimal is near to the number and far from the middles.  On a
coarse one it is a multiple of a power of ten that was looked at (`close_middle`): it is far from a
middle, or it is the middle and read exactly, or the middle is one of three.  This is `Regular.holds`.
What is left can be tried: the powers of two, whose lower neighbour is nearer than the upper one, and the
neighbours of the three middles.  Of all these the shortest decimal is far enough from the middles, with
one exception (`tightest`), and there the text itself is read.

* §1 is the last rounding.
* §2 has the powers of ten that were looked at, and the middles, as rationals.
* §3 is the place of a shortest decimal between the middles.
* §4 has the numbers that are tried, §5 puts the cases together.
* §6 is about documents, and about literals in general.  A literal that was not written here may well be
  read by way of a number that is not the nearest one.
-/

namespace SoundEngine

open Json Format

/-! ## 1. The last rounding -/

namespace Binary

variable {x : Double} {v : ℚ}

theorem convert_number {s : Bool} {m : Fin (double.infinity + 1)} (hm : m.val < double.infinity) :
    (number s m : Double).convert .single = .ofPattern s
      (single.rounded (double.units m * 2 ^ single.scale) (2 ^ double.scale)) := by
  unfold convert
  dsimp only
  rw [if_neg hm.ne, nearest_eq_min]
  exact congrArg (number s) (Fin.ext (by simp))

/-- **A 64-bit number is rounded to the nearest 32-bit number.** -/
theorem HasValue.convert_nearest (h : HasValue x v) :
    ∃ m, x.convert .single = .ofPattern false m ∧ single.Holds m (v * 2 ^ single.scale) := by
  obtain ⟨m, rfl, hm, rfl⟩ := h
  have hden : 0 < 2 ^ double.scale := Nat.pow_pos (by decide)
  have hnearest := nearest_rounded (f := single) (double.units m * 2 ^ single.scale) hden (by decide)
  have hvalue : ((double.units m * 2 ^ single.scale : Nat) : ℚ) / (2 ^ double.scale : Nat) =
      double.value m * 2 ^ single.scale := by
    rw [Format.value, Nat.cast_mul, Nat.cast_pow, Nat.cast_pow, Nat.cast_two, div_mul_eq_mul_div]
  rw [nearest_iff_holds hden, hvalue] at hnearest
  exact ⟨_, convert_number hm, hnearest⟩

/-- A number that rounds to a pattern is converted to it. -/
theorem HasValue.convert_eq (h : HasValue x v) {m : Fin (single.infinity + 1)}
    (hm : single.Holds m (v * 2 ^ single.scale)) : x.convert .single = .number false m := by
  obtain ⟨m', hconvert, hm'⟩ := h.convert_nearest
  rw [hconvert, hm'.unique hm]
  exact congrArg (number false) (Fin.ext (Nat.min_eq_left (Nat.lt_succ_iff.mp m.isLt)))

theorem convert_neg (x : Double) : x.neg.convert .single = (x.convert .single).neg := by
  cases x with
  | nan => rfl
  | number s m =>
    unfold neg convert
    dsimp only
    split <;> rfl

end Binary

/-! ## 2. Grids and middles -/

/-- A decimal in units. -/
theorem value_step (d : Decimal) : d.coefficient * single.step d.exponent = d.value * 2 ^ single.scale := by
  rw [Decimal.value, step, mul_assoc]

/-- A value in half units. -/
theorem two_mul_units (v : ℚ) : 2 * (v * 2 ^ single.scale) = v * 2 ^ 150 := by
  have hscale : (2 : ℚ) ^ 150 = 2 * 2 ^ single.scale := pow_succ' 2 149
  rw [hscale]
  ring

/-- The power of ten of an exponent, in half units. -/
theorem grid_ratio (s : Nat) : (gridNum s : ℚ) / gridDen s * 2 ^ s = 10 ^ gridPower s * 2 ^ 150 := by
  have hpow : (2 : ℚ) ^ (150 - s) * 2 ^ s = 2 ^ 150 * 2 ^ (s - 150) :=
    calc (2 : ℚ) ^ (150 - s) * 2 ^ s = 2 ^ (150 - s + s) := (pow_add 2 (150 - s) s).symm
      _ = 2 ^ (150 + (s - 150)) := congrArg (2 ^ ·) (by omega)
      _ = 2 ^ 150 * 2 ^ (s - 150) := pow_add 2 150 (s - 150)
  unfold gridNum gridDen
  rw [zpow_ten]
  push_cast
  field_simp
  linear_combination hpow

/-- A power of ten from `2 ^ s` half units on is one of those that were looked at. -/
theorem gridPower_le {s : Nat} (hs : s < 254) {e : Int} (he : (2 : ℚ) ^ s ≤ 10 ^ e * 2 ^ 150) :
    gridPower s ≤ e := by
  by_contra hlt
  obtain ⟨hpos, hnum, -⟩ := bracket_checked s hs
  have hden : 0 < gridDen s := by omega
  have hratio := grid_ratio s
  have hsmall : (gridNum s : ℚ) / gridDen s < 10 := by
    rw [div_lt_iff₀ (Nat.cast_pos.mpr hden)]
    exact_mod_cast hnum
  have hpower : (10 : ℚ) ^ e ≤ 10 ^ (gridPower s - 1) := zpow_le_zpow_right₀ (by norm_num) (by omega)
  rw [zpow_sub_one₀ (by norm_num)] at hpower
  have hlt' : (gridNum s : ℚ) / gridDen s * 2 ^ s < 10 * 2 ^ s :=
    mul_lt_mul_of_pos_right hsmall (by positivity)
  have hle : (10 : ℚ) ^ e * 2 ^ 150 ≤ 10 ^ gridPower s * 10⁻¹ * 2 ^ 150 :=
    mul_le_mul_of_nonneg_right hpower (by positivity)
  linarith

/-- A decimal on a grid from there on, by its multiple. -/
theorem multiple_of_grid {s : Nat} {d : Decimal} (hd : gridPower s ≤ d.exponent) {t : ℚ}
    (ht : t * 2 ^ s = d.value * 2 ^ 150) : ∃ c : Nat, t = c * (gridNum s / gridDen s) := by
  obtain ⟨j, hj⟩ := Int.eq_ofNat_of_zero_le (show 0 ≤ d.exponent - gridPower s by omega)
  have hexp : d.exponent = gridPower s + j := by omega
  refine ⟨d.coefficient * 10 ^ j, mul_right_cancel₀ (b := 2 ^ s) (by positivity) ?_⟩
  rw [mul_assoc, grid_ratio, ht, Decimal.value, hexp, zpow_add₀ (by norm_num), zpow_natCast]
  push_cast
  ring

/-- A decimal at a middle, or far from it. -/
theorem middle_cases {s c n : Nat} (hs : s < 254) (hodd : n % 2 = 1) (hn : s = 0 ∨ 2 ^ 24 < n)
    (hc : (c : ℚ) * (gridNum s / gridDen s) ≤ 2 ^ 25) :
    c * (gridNum s / gridDen s : ℚ) = n ∨ (s, n) ∈ closeMiddles ∨
      1 / 2 ^ 27 ≤ |c * (gridNum s / gridDen s : ℚ) - n| := by
  obtain ⟨hpos, hnum, -⟩ := bracket_checked s hs
  have hden : (0 : ℚ) < gridDen s := Nat.cast_pos.mpr (by omega)
  have hc' : c * gridNum s ≤ 2 ^ 25 * gridDen s := by
    rw [mul_div_assoc', div_le_iff₀ hden] at hc
    exact_mod_cast hc
  have hdist : c * (gridNum s / gridDen s : ℚ) - n = (c * gridNum s - n * gridDen s) / gridDen s := by
    rw [mul_div_assoc', sub_div, mul_div_cancel_right₀ _ hden.ne']
  by_cases hclose : |(c * gridNum s - n * gridDen s : Int)| * 2 ^ 27 < gridDen s
  · rcases close_middle hs hodd hn hc' hclose with heq | hexcept
    · left
      rw [mul_div_assoc', div_eq_iff hden.ne']
      exact_mod_cast heq
    · exact .inr (.inl hexcept)
  · right
    right
    rw [hdist, abs_div, abs_of_pos hden, div_le_div_iff₀ (by norm_num) hden, one_mul]
    exact_mod_cast not_lt.mp hclose

/-- A decimal that is a middle has a small power of ten. -/
theorem exponent_of_middle {c n s : Nat} {e : Int} (hc : 0 < c) (hc' : c < 10 ^ 9) (hn : 0 < n)
    (hn' : n < 2 ^ 26) (h : (c : ℚ) * 10 ^ e * 2 ^ 150 = n * 2 ^ s) : -22 ≤ e ∧ e ≤ 22 := by
  -- of the factors of ten only the fives count against a power of two
  have hcoprime (j k : Nat) : Nat.Coprime (5 ^ j) (2 ^ k) :=
    Nat.Coprime.pow j k (by decide)
  have hsmall {j a : Nat} (hdvd : 5 ^ j ∣ a) (hpos : 0 < a) (ha : a < 5 ^ 22) : j < 22 :=
    (Nat.pow_lt_pow_iff_right (by decide)).mp ((Nat.le_of_dvd hpos hdvd).trans_lt ha)
  rcases Int.le_total 0 e with he | he
  · obtain ⟨j, rfl⟩ := Int.eq_ofNat_of_zero_le he
    have hnat : c * 10 ^ j * 2 ^ 150 = n * 2 ^ s := by
      rw [zpow_natCast] at h
      exact_mod_cast h
    have hdvd : 5 ^ j ∣ n := by
      refine (hcoprime j s).dvd_of_dvd_mul_right (hnat ▸ ?_)
      rw [show 10 = 5 * 2 from rfl, Nat.mul_pow]
      exact ⟨c * 2 ^ j * 2 ^ 150, by ring⟩
    have hj := hsmall hdvd hn (hn'.trans (by decide))
    omega
  · obtain ⟨j, hj⟩ := Int.eq_ofNat_of_zero_le (show 0 ≤ -e by omega)
    obtain rfl : e = -j := by omega
    have hnat : c * 2 ^ 150 = n * 2 ^ s * 10 ^ j := by
      rw [zpow_neg, zpow_natCast] at h
      have h' : (c : ℚ) * 2 ^ 150 = n * 2 ^ s * 10 ^ j := by
        rw [← h]
        field_simp
      exact_mod_cast h'
    have hdvd : 5 ^ j ∣ c := by
      refine (hcoprime j 150).dvd_of_dvd_mul_right (hnat ▸ ?_)
      rw [show 10 = 5 * 2 from rfl, Nat.mul_pow]
      exact ⟨n * 2 ^ s * 2 ^ j, by ring⟩
    have hj := hsmall hdvd hc (hc'.trans (by decide))
    omega

/-! ## 3. Between the middles -/

/-- The pattern `m` is finite, not zero, and not a power of two whose lower neighbour is nearer than the
upper one.  It has the exponent `s`, and its value is `r * 2 ^ s` units. -/
structure Regular (m s r : Nat) : Prop where
  pattern : m = s * 2 ^ 23 + r
  exponent : s < 254
  inner : s = 0 ∧ 0 < r ∨ 2 ^ 23 < r
  small : r < 2 ^ 24

namespace Regular

variable {m s r : Nat} (h : Regular m s r)

include h

theorem pos : 0 < m := by
  obtain ⟨hm, -, hr, -⟩ := h
  omega

/-- Its neighbours are equally far. -/
theorem units : (single.units (m - 1) : ℚ) = (r - 1) * 2 ^ s ∧
    (single.units m : ℚ) = r * 2 ^ s ∧ (single.gap m : ℚ) = 2 ^ s := by
  obtain ⟨hm, -, hr, hr'⟩ := h
  have hunits (k : Nat) (hk : s = 0 ∨ 2 ^ 23 ≤ k) (hk' : k ≤ 2 * 2 ^ 23) :
      single.units (s * 2 ^ 23 + k) = k * 2 ^ s := single.units_shift hk hk'
  have hr₁ : 1 ≤ r := by omega
  have hprev : m - 1 = s * 2 ^ 23 + (r - 1) := by omega
  have hnext : m + 1 = s * 2 ^ 23 + (r + 1) := by omega
  have hgap := single.units_succ m
  rw [hnext, hunits _ (by omega) (by omega), hm, hunits _ (by omega) (by omega), ← hm, Nat.add_mul,
    Nat.one_mul, Nat.add_left_cancel_iff] at hgap
  rw [hprev, hunits _ (by omega) (by omega), hm, hunits _ (by omega) (by omega), ← hm, ← hgap]
  push_cast [hr₁]
  exact ⟨rfl, rfl, rfl⟩

/-- A value that is read from between the middles, but not from next to them, rounds to the pattern. -/
theorem holds_of_margin {t y : ℚ} (hlow : 2 * r - 1 + 1 / 2 ^ 27 ≤ t) (hhigh : t ≤ 2 * r + 1 - 1 / 2 ^ 27)
    (hy : |2 * y - t * 2 ^ s| ≤ t * 2 ^ s / (2 ^ 52 - 1)) : single.Holds m y := by
  obtain ⟨hprev, hunits, hgap⟩ := h.units
  have hr : (r : ℚ) + 1 ≤ 2 ^ 24 := by exact_mod_cast h.small
  obtain ⟨S, hS⟩ : ∃ S : ℚ, S = 2 ^ s := ⟨_, rfl⟩
  have hSpos : 0 < S := by
    rw [hS]
    positivity
  rw [← hS] at hy hprev hunits hgap
  obtain ⟨hy₁, hy₂⟩ := abs_le.mp hy
  -- the error is less than the margin
  have herror : t * S / (2 ^ 52 - 1) < S / 2 ^ 27 := by
    rw [div_lt_div_iff₀ (by norm_num) (by norm_num)]
    have hle : t * S ≤ (2 ^ 25 - 1) * S := mul_le_mul_of_nonneg_right (by linarith) hSpos.le
    linarith
  have hlow' : (2 * r - 1 + 1 / 2 ^ 27) * S ≤ t * S := mul_le_mul_of_nonneg_right hlow hSpos.le
  have hhigh' : t * S ≤ (2 * r + 1 - 1 / 2 ^ 27) * S := mul_le_mul_of_nonneg_right hhigh hSpos.le
  refine holds_of_between ?_ ?_
  · rw [hprev, hunits]
    linarith
  · rw [units_succ_cast, hunits, hgap]
    linarith

/-- The shortest decimal in half units of the exponent: it is not outside the middles. -/
theorem shortest_bounds {t : ℚ} (ht : t * 2 ^ s = (single.shortest .even m).value * 2 ^ 150) :
    2 * r - 1 ≤ t ∧ t ≤ 2 * r + 1 := by
  obtain ⟨hprev, hunits, hgap⟩ := h.units
  obtain ⟨hlow, hhigh, -⟩ := holds_shortest (f := single) .even h.pos
  rw [units_succ_cast] at hhigh
  rw [hunits, value_step, two_mul_units, ← ht] at hlow hhigh
  rw [hprev] at hlow
  rw [hgap] at hhigh
  have hS : (0 : ℚ) < 2 ^ s := by positivity
  exact ⟨le_of_mul_le_mul_right (by linarith) hS, le_of_mul_le_mul_right (by linarith) hS⟩

/-- **Where a shortest decimal lies**: well between the middles, or at one of them, or next to one of the
three. -/
theorem shortest_place {t : ℚ}
    (ht : t * 2 ^ s = (single.shortest .even m).value * 2 ^ 150) :
    (2 * r - 1 + 1 / 2 ^ 27 ≤ t ∧ t ≤ 2 * r + 1 - 1 / 2 ^ 27) ∨
      (∃ n : Nat, 0 < n ∧ n < 2 ^ 26 ∧ t = n) ∨
      (s, 2 * r - 1) ∈ closeMiddles ∨ (s, 2 * r + 1) ∈ closeMiddles := by
  obtain ⟨hlow, hhigh⟩ := h.shortest_bounds ht
  obtain ⟨hprev, hunits, hgap⟩ := h.units
  have hS : (0 : ℚ) < 2 ^ s := by positivity
  rcases lt_or_ge (2 * single.step (single.shortest .even m).exponent) (2 ^ s : ℚ) with hfine | hcoarse
  · -- on a fine grid it is near to the number itself
    left
    have hnear := shortest_near .even h.pos (by linarith) (by rwa [hgap])
    rw [value_step, hunits] at hnear
    obtain ⟨hnear₁, hnear₂⟩ := abs_le.mp hnear
    have hhalf := two_mul_units (single.shortest .even m).value
    rw [← ht] at hhalf
    constructor
    · refine le_of_mul_le_mul_right ?_ hS
      linarith
    · refine le_of_mul_le_mul_right ?_ hS
      linarith
  · -- on a coarse one it is a multiple of the power that was looked at
    have hgrid : gridPower s ≤ (single.shortest .even m).exponent := by
      refine gridPower_le h.exponent (hcoarse.trans_eq ?_)
      exact two_mul_units _
    obtain ⟨c, hc⟩ := multiple_of_grid hgrid ht
    obtain ⟨-, hs, hr, hr'⟩ := h
    have ht' : t ≤ 2 ^ 25 := by
      have hr₂ : (r : ℚ) + 1 ≤ 2 ^ 24 := by exact_mod_cast hr'
      linarith
    have hr₁ : 1 ≤ 2 * r := by omega
    have hprev := middle_cases (c := c) (n := 2 * r - 1) hs (by omega) (by omega) (hc ▸ ht')
    have hnext := middle_cases (c := c) (n := 2 * r + 1) hs (by omega) (by omega) (hc ▸ ht')
    rw [← hc] at hprev hnext
    -- either middle is hit, is one of the exceptions, or is far enough away
    rcases hprev with hat | hexcept | hprev
    · exact .inr (.inl ⟨_, by omega, by omega, hat⟩)
    · exact .inr (.inr (.inl hexcept))
    rcases hnext with hat | hexcept | hnext
    · exact .inr (.inl ⟨_, by omega, by omega, hat⟩)
    · exact .inr (.inr (.inr hexcept))
    left
    push_cast [hr₁] at hprev hnext
    rw [abs_of_nonneg (by linarith)] at hprev
    rw [abs_of_nonpos (by linarith)] at hnext
    constructor <;> linarith

/-- **What is read from the shortest decimal rounds to the pattern**, next to the three middles apart. -/
theorem holds {v : ℚ} (hv : Approximates v (single.shortest .even m)) :
    single.Holds m (v * 2 ^ single.scale) ∨
      (s, 2 * r - 1) ∈ closeMiddles ∨ (s, 2 * r + 1) ∈ closeMiddles := by
  have hS : (0 : ℚ) < 2 ^ s := by positivity
  obtain ⟨t, ht⟩ : ∃ t, t * 2 ^ s = (single.shortest .even m).value * 2 ^ 150 :=
    ⟨_, div_mul_cancel₀ _ hS.ne'⟩
  rcases h.shortest_place ht with ⟨hlow, hhigh⟩ | ⟨n, hn, hn', rfl⟩ | hexcept
  · left
    refine h.holds_of_margin hlow hhigh ?_
    rw [ht, two_mul_units]
    exact hv.scaled (by positivity)
  · -- a middle is read exactly
    left
    obtain ⟨he, he'⟩ := exponent_of_middle (single.shortest_coefficient_pos .even h.pos)
      (shortest_coefficient_lt h.pos) hn hn' ht.symm
    have hscale : (2 : ℚ) ^ double.scale = 2 ^ 150 * 2 ^ 924 := pow_add 2 150 924
    have hexact : v = (single.shortest .even m).value := by
      refine hv.exact he he' n (s + 924) ?_ (hn'.trans (by decide))
      rw [hscale, ← mul_assoc, ← ht, mul_assoc, ← pow_add]
    rw [hexact, ← value_step]
    exact holds_shortest .even h.pos
  · exact .inr hexcept

end Regular

/-! ## 4. Powers of two, and the three middles -/

/-- The shortest decimal of the pattern lies between the middles with a margin for what is read. -/
def Clear (m : Nat) : Prop :=
  let d := single.shortest .even m
  let value := d.coefficient * 10 ^ d.exponent.toNat * 2 ^ 150
  let low := (single.units (m - 1) + single.units m) * 10 ^ (-d.exponent).toNat
  let high := (single.units m + single.units (m + 1)) * 10 ^ (-d.exponent).toNat
  low * 2 ^ 52 + 2 * value < value * 2 ^ 52 + low ∧ value * 2 ^ 52 + high < high * 2 ^ 52

instance (m : Nat) : Decidable (Clear m) := by
  unfold Clear
  infer_instance

theorem Clear.holds {m : Nat} (hclear : Clear m) {v : ℚ}
    (h : Approximates v (single.shortest .even m)) : single.Holds m (v * 2 ^ single.scale) := by
  obtain ⟨hlow, hhigh⟩ := hclear
  generalize single.shortest .even m = d at hlow hhigh h
  obtain ⟨p, hp⟩ : ∃ p : ℚ, p = 10 ^ (-d.exponent).toNat := ⟨_, rfl⟩
  have hpos : 0 < p := by
    rw [hp]
    positivity
  have hvalue : d.value * (2 ^ 150 * p) = d.coefficient * 10 ^ d.exponent.toNat * 2 ^ 150 := by
    rw [Decimal.value, zpow_ten, hp]
    field_simp
  have hlow' : ((single.units (m - 1) + single.units m) * p) * 2 ^ 52 + 2 * (d.value * (2 ^ 150 * p)) <
      d.value * (2 ^ 150 * p) * 2 ^ 52 + (single.units (m - 1) + single.units m) * p := by
    rw [hvalue, hp]
    exact_mod_cast hlow
  have hhigh' : d.value * (2 ^ 150 * p) * 2 ^ 52 + (single.units m + single.units (m + 1)) * p <
      (single.units m + single.units (m + 1)) * p * 2 ^ 52 := by
    rw [hvalue, hp]
    exact_mod_cast hhigh
  obtain ⟨hread, hread'⟩ := abs_le.mp (h.scaled (mul_pos (by positivity : (0 : ℚ) < 2 ^ 150) hpos))
  refine holds_of_between (lt_of_mul_lt_mul_right ?_ hpos.le) (lt_of_mul_lt_mul_right ?_ hpos.le)
  · rw [two_mul_units]
    linarith
  · rw [two_mul_units]
    linarith

/-- The powers of two from the first one on whose neighbours are not equally far. -/
theorem clear_first : ∀ s < 253, Clear ((s + 2) * 2 ^ 23) := by
  decide +kernel

/-- The number whose shortest decimal, `7038531e-32`, is next to a middle. -/
def tightest : Nat := 42 * 2 ^ 23 + 11420669

/-- The neighbours of the three middles. -/
theorem clear_close : ∀ p ∈ closeMiddles, Clear (p.1 * 2 ^ 23 + (p.2 + 1) / 2) ∧
    (Clear (p.1 * 2 ^ 23 + (p.2 - 1) / 2) ∨ p.1 * 2 ^ 23 + (p.2 - 1) / 2 = tightest) := by
  decide +kernel

/-- **What is read from the shortest decimal rounds to the number.** -/
theorem holds_of_shortest {m : Nat} (hm : 0 < m) (hfin : m < single.infinity) (hne : m ≠ tightest) {v : ℚ}
    (h : Approximates v (single.shortest .even m)) : single.Holds m (v * 2 ^ single.scale) := by
  obtain ⟨s, r, hsr, hr, hs, -⟩ := single.exists_units m
  have hinfinity : single.infinity = 255 * 2 ^ 23 := by decide
  have hsr' : m = s * 2 ^ 23 + r := hsr
  have hr' : r < 2 ^ 24 := hr
  have hs' : s = 0 ∨ 2 ^ 23 ≤ r := hs
  by_cases hfirst : r = 2 ^ 23 ∧ 0 < s
  · have hpower : m = (s - 1 + 2) * 2 ^ 23 := by omega
    have hclear := clear_first (s - 1) (by omega)
    rw [← hpower] at hclear
    exact hclear.holds h
  · rcases Regular.holds ⟨hsr', by omega, by omega, hr'⟩ h with hholds | hclose | hclose
    · exact hholds
    · have hclear := (clear_close _ hclose).1
      have hm : s * 2 ^ 23 + (2 * r - 1 + 1) / 2 = m := by omega
      rw [hm] at hclear
      exact hclear.holds h
    · have hclear := (clear_close _ hclose).2
      have hm : s * 2 ^ 23 + (2 * r + 1 - 1) / 2 = m := by omega
      rw [hm] at hclear
      exact (hclear.resolve_right hne).holds h

/-! ## 5. Reading back -/

theorem readsBack_zero : ∀ s, Decoder.ReadsBack (.number s 0) := by
  unfold Decoder.ReadsBack
  decide +kernel

theorem readsBack_tightest : ∀ s, Decoder.ReadsBack (.ofPattern s tightest) := by
  unfold Decoder.ReadsBack
  decide +kernel

/-- **Every finite number is read back from its written form.** -/
theorem Json.Decoder.readsBack {x : Single} (hx : x.isFinite = true) : Decoder.ReadsBack x := by
  cases x with
  | nan => cases hx
  | number s m =>
    have hfin : m.val < Format.single.infinity := of_decide_eq_true hx
    by_cases hzero : m.val = 0
    · obtain rfl : m = 0 := Fin.ext hzero
      exact readsBack_zero s
    by_cases htightest : m.val = tightest
    · have hpattern : (Binary.number s m : Single) = .ofPattern s tightest :=
        congrArg (Binary.number s) (Fin.ext (htightest.trans (by decide)))
      rw [hpattern]
      exact readsBack_tightest s
    have hpos : 0 < m.val := Nat.pos_of_ne_zero hzero
    obtain ⟨x, v, hnumber, hvalue, happrox⟩ := shortest_read hpos hfin s
    have hconvert := hvalue.convert_eq (holds_of_shortest hpos hfin htightest happrox)
    have hproper := Layout.proper_spelled singleLayout (Format.single.shortest_coefficient_pos .even hpos)
    have hread := single_of_number hproper false singleLayout.plus hnumber
    unfold ReadsBack
    rw [writeSingle_number hfin, if_neg hzero, Layout.write_spelled, hread]
    cases s with
    | false => rw [if_neg Bool.false_ne_true, hconvert]
    | true =>
      rw [if_pos rfl, Binary.convert_neg, hconvert]
      rfl

/-! ## 6. Documents -/

/-- The sign of a number that is written. -/
def signText (negative : Bool) : List Char := if negative then ['-'] else []

/-- **A finite number is written with the fewest digits that identify it.** -/
theorem written_shortest {negative : Bool} {m : Fin (single.infinity + 1)} (hpos : 0 < m.val)
    (hfin : m.val < single.infinity) : ∃ d : Decimal,
      writeSingle (.number negative m) = signText negative ++ singleLayout.write d ∧
      d.rounded single negative = .number negative m ∧
      ∀ d' : Decimal, d'.rounded single negative = .number negative m →
        (Nat.toDigits 10 d.coefficient).length ≤ (Nat.toDigits 10 d'.coefficient).length := by
  refine ⟨single.shortest .even m, ?_, ?_, fun d' hd' => ?_⟩
  · rw [writeSingle_number hfin, if_neg hpos.ne']
    rfl
  · exact (Decimal.rounded_eq_iff (by decide) hfin).mpr (shortest_roundsTo .even hpos)
  · exact shortest_fewest .even hpos ((Decimal.rounded_eq_iff (by decide) hfin).mp hd')

/-- **A literal is read by way of a 64-bit number**, which has a value, and then as the 32-bit number
nearest to that. -/
theorem literal_read {d : Spelling} (hd : d.Proper)
    (hreal : d.fraction.isSome = true ∨ d.exponent.isSome = true) (capital plus negative : Bool)
    {x : Double} (hx : scaled d.kept.coefficient d.kept.exponent = .ok x) : ∃ v m, Binary.HasValue x v ∧
      Decoder.single.reader (signText negative ++ d.text capital plus) =
        .ok (.ofPattern negative m, []) ∧
      single.Holds m (v * 2 ^ single.scale) := by
  have hkept : d.kept.coefficient ≤ significandLimit := absorb_le (absorb_le (Nat.zero_le _) _) _
  obtain ⟨v, hv⟩ := scaled_finite hkept hx
  obtain ⟨m, hconvert, hnearest⟩ := hv.convert_nearest
  have hnumber : d.number negative = .ok (.real (if negative then x.neg else x)) := by
    rw [Spelling.number_kept hreal]
    unfold realNumber
    rw [hx]
  have hsigned : (if negative then x.neg else x).convert .single = .ofPattern negative m := by
    cases negative with
    | false => exact hconvert
    | true =>
      rw [if_pos rfl, Binary.convert_neg, hconvert]
      rfl
  exact ⟨v, m, hv, hsigned ▸ single_of_number hd capital plus hnumber, hnearest⟩

/-- **Every finite number survives.**

* A request that is written and read again has the same volume, pitch and pan, bit for bit, as far as they
  are finite.  Settings whose gains are finite are the same again.
* A finite number is written as zero or as a decimal that rounds to it and has the fewest digits of all that
  do.
* A literal with a point or an exponent, whichever letter begins the exponent and whether or not a plus
  sign follows it, is read as a 64-bit number, of its digits and its power of ten, and this number is
  read as the 32-bit number nearest to it.  The 64-bit number is the one nearest to the
  literal if the digits make a number below `2 ^ 53` and the power of ten is at most 22 either way. -/
theorem finite_numbers_survive :
    (∀ r : EffectRequest, EffectRequest.ofText r.toText = .ok r.kept ∧
      ∀ x : Single, x.isFinite = true → (r.volume = some x → r.kept.volume = some x) ∧
        (r.pitch = some x → r.kept.pitch = some x) ∧ (r.pan = some x → r.kept.pan = some x)) ∧
    (∀ s : Settings, (∀ kind, (s.gains.get kind).isFinite = true) → Settings.ofText s.toText = .ok s) ∧
    (∀ (negative : Bool) (m : Fin (single.infinity + 1)), m.val < single.infinity →
      (m.val = 0 → writeSingle (.number negative m) = signText negative ++ "0.0".toList) ∧
      (0 < m.val → ∃ d : Decimal,
        writeSingle (.number negative m) = signText negative ++ singleLayout.write d ∧
        d.rounded single negative = .number negative m ∧
        ∀ d' : Decimal, d'.rounded single negative = .number negative m →
          (Nat.toDigits 10 d.coefficient).length ≤ (Nat.toDigits 10 d'.coefficient).length)) ∧
    ∀ (d : Spelling) (capital plus negative : Bool), d.Proper →
      (d.fraction.isSome = true ∨ d.exponent.isSome = true) →
      ∀ x : Double, scaled d.kept.coefficient d.kept.exponent = .ok x →
        (∃ v m, Binary.HasValue x v ∧
          Decoder.single.reader (signText negative ++ d.text capital plus) =
            .ok (.ofPattern negative m, []) ∧
          single.Holds m (v * 2 ^ single.scale)) ∧
        (d.decimal.coefficient < 2 ^ 53 → -22 ≤ d.decimal.exponent → d.decimal.exponent ≤ 22 →
          x = d.decimal.rounded double false) := by
  refine ⟨fun r => ⟨?_, fun x hx => ?_⟩, fun s hfinite => ?_, fun negative m hfin => ⟨fun hzero => ?_, ?_⟩,
    fun d capital plus negative hd hreal x hx => ⟨literal_read hd hreal capital plus negative hx,
      fun hsmall hlow hhigh => ?_⟩⟩
  · obtain ⟨q, hreads, hrecord⟩ := EffectRequest.reads_members (r := r) fun x _ hx => Decoder.readsBack hx
    rw [← hrecord]
    exact run_writeObject Command.shallow_effect hreads
  · have hkept : (some x).filter (·.isFinite) = some x := Option.filter_some_pos hx
    refine ⟨fun h => ?_, fun h => ?_, fun h => ?_⟩
    · rw [EffectRequest.kept, h, hkept]
    · rw [EffectRequest.kept, h, hkept]
    · rw [EffectRequest.kept, h, hkept]
  · exact Settings.written_read fun kind => Decoder.readsBack (hfinite kind)
  · rw [writeSingle_number hfin, if_pos hzero]
    rfl
  · exact fun hpos => written_shortest hpos hfin
  · have hfits : d.decimal.coefficient ≤ significandLimit := hsmall.le.trans (by decide)
    rw [Spelling.kept_eq hfits, scaled_nearest hsmall hlow hhigh] at hx
    exact (Except.ok.inj hx).symm

/-- A request with the tightest number, the greatest negative one and a zero with its sign. -/
def edgeRequest : EffectRequest where
  volume := some (.ofPattern false tightest)
  pitch := some (.ofPattern true 1)
  pan := some Binary.zero.neg

/-- Settings with the greatest number, the least one and a subnormal one. -/
def edgeSettings : Settings where
  base := ""
  gains :=
    ⟨.ofPattern false (single.infinity - 1), .ofPattern true (single.infinity - 1), .ofPattern false 1⟩

/-- The spelling of `1E-1`. -/
def tenth : Spelling := ⟨['1'], none, some (true, ['1'])⟩

theorem proper_tenth : tenth.Proper := by
  refine ⟨isDigits_toDigits 1, fun _ => rfl, by simp [tenth], ?_⟩
  rintro _ ⟨⟩
  exact isDigits_toDigits 1

theorem finite_numbers_survive_edges :
    EffectRequest.ofText edgeRequest.toText = .ok edgeRequest ∧
    Settings.ofText edgeSettings.toText = .ok edgeSettings ∧
    (∃ d : Decimal, writeSingle (.number true 1) = signText true ++ singleLayout.write d ∧
      d.rounded single true = .number true 1) ∧
    ∃ v m, Binary.HasValue (tenth.decimal.rounded double false) v ∧
      Decoder.single.reader (signText true ++ tenth.text true false) = .ok (.ofPattern true m, []) ∧
      single.Holds m (v * 2 ^ single.scale) := by
  obtain ⟨hrequests, hsettings, hwritten, hliterals⟩ := finite_numbers_survive
  have hgains : ∀ kind, (edgeSettings.gains.get kind).isFinite = true := by
    intro kind
    cases kind <;> decide
  have hscaled : scaled tenth.kept.coefficient tenth.kept.exponent =
      .ok (tenth.decimal.rounded double false) := by
    rw [Spelling.kept_eq (by decide)]
    exact scaled_nearest (by decide) (by decide) (by decide)
  obtain ⟨d, hwrite, hrounded, -⟩ := (hwritten true 1 (by decide)).2 (by decide)
  exact ⟨(hrequests edgeRequest).1, hsettings edgeSettings hgains, ⟨d, hwrite, hrounded⟩,
    (hliterals tenth true false true proper_tenth (.inr rfl) _ hscaled).1⟩

/-- The spelling of `16777217.0000000018`. -/
def closeLiteral : Spelling := ⟨"16777217".toList, some "0000000018".toList, none⟩

/-- **A literal is not always read by way of the nearest 64-bit number.**  The one nearest to this literal
is `16777217`, a middle, which is rounded to the even one of its neighbours; but the digits and the power
of ten give the next number above, and the other neighbour is read. -/
theorem nearest_missed :
    closeLiteral.text false true = "16777217.0000000018".toList ∧
    EffectRequest.ofText "\x7b\"volume\":16777217.0000000018\x7d" =
      .ok { volume := some (Binary.ofNat 16777218) } ∧
    (closeLiteral.decimal.rounded double false).convert .single = Binary.ofNat 16777216 ∧
    (Binary.ofNat 16777216 : Single) ≠ Binary.ofNat 16777218 := by
  decide +kernel

end SoundEngine
