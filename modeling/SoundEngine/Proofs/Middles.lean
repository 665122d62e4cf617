import Mathlib.Tactic.LinearCombination
import Mathlib.Tactic.Ring
import Mathlib.Tactic.Zify
import Mathlib.Tactic.Linarith
import Mathlib.Algebra.Order.Group.Abs
import Mathlib.Algebra.Order.Ring.Int

/-!
# Short decimals near a middle

Between two neighbouring 32-bit numbers of the exponent `s` lies a middle, `n * 2 ^ s` half units for an
odd `n`.  A decimal that is read through the 64-bit format is not read exactly, so it matters how near to
a middle a short decimal can be without being that middle.  It can be nearer than a part in `2 ^ 27` for
three middles only (`close_middle`).

There are too many middles to try them all.  But for each of the 254 exponents the question is one about
fractions: the multiples `c` of a power of ten, counted in `2 ^ s` half units, are those of one number
`gridNum s / gridDen s`, and a `c` near to an `n` is a fraction `n / c` near to that number.  Of two
neighbouring fractions around a number each fraction with a small denominator is a combination, and its
distances add up (`Bracket.Around.offset`).  So one pair of fractions for each exponent is enough, and
these 254 pairs are computed and checked.

* §1 is about a number between two fractions.
* §2 has the pairs.  They are found as the search for a continued fraction finds them; how they are found
  does not matter, for they are checked.
-/

namespace SoundEngine

/-! ## 1. A number between two fractions -/

/-- The fractions `p / q` and `p' / q'`. -/
structure Bracket where
  q : Nat
  p : Nat
  q' : Nat
  p' : Nat

namespace Bracket

variable (b : Bracket) (num den limit : Nat)

/-- The number `num / den` lies between the fractions, which are neighbours.  A fraction between them has
a denominator past the limit. -/
structure Around : Prop where
  neighbours : b.p' * b.q = b.p * b.q' + 1
  low : b.p * den ≤ b.q * num
  high : b.q' * num ≤ b.p' * den
  fine : limit < b.q + b.q'

instance : Decidable (b.Around num den limit) :=
  decidable_of_iff (b.p' * b.q = b.p * b.q' + 1 ∧ b.p * den ≤ b.q * num ∧ b.q' * num ≤ b.p' * den ∧
    limit < b.q + b.q') ⟨fun ⟨h, hlow, hhigh, hfine⟩ => ⟨h, hlow, hhigh, hfine⟩,
      fun ⟨h, hlow, hhigh, hfine⟩ => ⟨h, hlow, hhigh, hfine⟩⟩

/-- How far `q` multiples of the number are above `p`. -/
def above : Nat := b.q * num - b.p * den

/-- How far `q'` multiples of the number are below `p'`. -/
def below : Nat := b.p' * den - b.q' * num

variable {b num den limit}

/-- **A fraction with a small denominator is a combination of the two**, and the distances from the number
add up. -/
theorem Around.offset (h : b.Around num den limit) {c n : Nat} (hc : c ≤ limit) (hn : 0 < n) :
    ∃ x y : Nat, |(c * num - n * den : Int)| = x * b.above num den + y * b.below num den ∧
      (c + y * b.q' = x * b.q ∧ n + y * b.p' = x * b.p ∨
        c + x * b.q = y * b.q' ∧ n + x * b.p = y * b.p') := by
  have hdet : (b.p' * b.q : Int) = b.p * b.q' + 1 := by exact_mod_cast h.neighbours
  have hfine : (c : Int) < b.q + b.q' := by exact_mod_cast hc.trans_lt h.fine
  have habove : (b.above num den : Int) = b.q * num - b.p * den := by
    rw [above, Nat.cast_sub h.low, Nat.cast_mul, Nat.cast_mul]
  have hbelow : (b.below num den : Int) = b.p' * den - b.q' * num := by
    rw [below, Nat.cast_sub h.high, Nat.cast_mul, Nat.cast_mul]
  -- the coefficients of the combination
  obtain ⟨x, hx⟩ : ∃ x : Int, x = c * b.p' - n * b.q' := ⟨_, rfl⟩
  obtain ⟨y, hy⟩ : ∃ y : Int, y = n * b.q - c * b.p := ⟨_, rfl⟩
  have hcx : (c : Int) = x * b.q + y * b.q' := by
    rw [hx, hy]
    linear_combination (-c : Int) * hdet
  have hnx : (n : Int) = x * b.p + y * b.p' := by
    rw [hx, hy]
    linear_combination (-n : Int) * hdet
  have hdist : (c * num - n * den : Int) = x * b.above num den - y * b.below num den := by
    rw [hcx, hnx, habove, hbelow]
    ring
  have habove₀ : (0 : Int) ≤ b.above num den := Int.natCast_nonneg _
  have hbelow₀ : (0 : Int) ≤ b.below num den := Int.natCast_nonneg _
  have hq : (0 : Int) ≤ b.q := Int.natCast_nonneg _
  have hq' : (0 : Int) ≤ b.q' := Int.natCast_nonneg _
  have hp : (0 : Int) ≤ b.p := Int.natCast_nonneg _
  have hp' : (0 : Int) ≤ b.p' := Int.natCast_nonneg _
  -- the two coefficients have different signs: the cases where they agree are out of range
  rcases le_or_gt x 0 with hx₀ | hx₀
  · rcases lt_or_ge y 0 with hy₀ | hy₀
    · -- `n` is positive
      have hxp := mul_nonpos_of_nonpos_of_nonneg hx₀ hp
      have hyp := mul_nonpos_of_nonpos_of_nonneg hy₀.le hp'
      omega
    · obtain ⟨k, rfl⟩ := Int.eq_ofNat_of_zero_le hy₀
      obtain ⟨j, hj⟩ := Int.eq_ofNat_of_zero_le (neg_nonneg.mpr hx₀)
      obtain rfl : x = -j := by omega
      refine ⟨j, k, ?_, .inr ⟨?_, ?_⟩⟩
      · have hx := mul_nonpos_of_nonpos_of_nonneg hx₀ habove₀
        have hy := mul_nonneg hy₀ hbelow₀
        rw [hdist, abs_of_nonpos (by linarith)]
        ring
      · zify
        linarith
      · zify
        linarith
  · rcases lt_or_ge 0 y with hy₀ | hy₀
    · -- a combination of both is too large
      have hxq : (b.q : Int) ≤ x * b.q := le_mul_of_one_le_left hq hx₀
      have hyq : (b.q' : Int) ≤ y * b.q' := le_mul_of_one_le_left hq' hy₀
      omega
    · obtain ⟨j, rfl⟩ := Int.eq_ofNat_of_zero_le hx₀.le
      obtain ⟨k, hk⟩ := Int.eq_ofNat_of_zero_le (neg_nonneg.mpr hy₀)
      obtain rfl : y = -k := by omega
      refine ⟨j, k, ?_, .inl ⟨?_, ?_⟩⟩
      · have hx := mul_nonneg hx₀.le habove₀
        have hy := mul_nonpos_of_nonpos_of_nonneg hy₀ hbelow₀
        rw [hdist, abs_of_nonneg (by linarith)]
        ring
      · zify
        linarith
      · zify
        linarith

/-- If the number is far enough below the one fraction, only multiples of the other one come near. -/
theorem Around.multiple_low (h : b.Around num den limit) {c n : Nat} (hc : c ≤ limit) (hn : 0 < n)
    (hclose : |(c * num - n * den : Int)| * 2 ^ 27 < den) (hfar : den ≤ b.below num den * 2 ^ 27) :
    ∃ t, c = t * b.q ∧ n = t * b.p ∧ |(c * num - n * den : Int)| = t * b.above num den := by
  obtain ⟨x, y, hdist, hxy⟩ := h.offset hc hn
  have hy : y = 0 := by
    by_contra hne
    have hle : (b.below num den : Int) ≤ |(c * num - n * den : Int)| := by
      rw [hdist]
      exact_mod_cast Nat.le_add_left_of_le (Nat.le_mul_of_pos_left _ (Nat.pos_of_ne_zero hne))
    have hfar' : (den : Int) ≤ b.below num den * 2 ^ 27 := by exact_mod_cast hfar
    linarith
  subst hy
  rcases hxy with ⟨hcx, hnx⟩ | ⟨-, hnx⟩
  · exact ⟨x, by omega, by omega, by rw [hdist]; simp⟩
  · omega

/-- The same on the other side. -/
theorem Around.multiple_high (h : b.Around num den limit) {c n : Nat} (hc : c ≤ limit) (hn : 0 < n)
    (hclose : |(c * num - n * den : Int)| * 2 ^ 27 < den) (hfar : den ≤ b.above num den * 2 ^ 27) :
    ∃ t, c = t * b.q' ∧ n = t * b.p' ∧ |(c * num - n * den : Int)| = t * b.below num den := by
  obtain ⟨x, y, hdist, hxy⟩ := h.offset hc hn
  have hx : x = 0 := by
    by_contra hne
    have hle : (b.above num den : Int) ≤ |(c * num - n * den : Int)| := by
      rw [hdist]
      exact_mod_cast Nat.le_add_right_of_le (Nat.le_mul_of_pos_left _ (Nat.pos_of_ne_zero hne))
    have hfar' : (den : Int) ≤ b.above num den * 2 ^ 27 := by exact_mod_cast hfar
    linarith
  subst hx
  rcases hxy with ⟨-, hnx⟩ | ⟨hcx, hnx⟩
  · omega
  · exact ⟨y, by omega, by omega, by rw [hdist]; simp⟩

/-- A step of the search for a continued fraction: the farther of the two fractions is replaced by the
nearest of its combinations with the other one. -/
def refine (num den limit : Nat) : Nat → Bracket → Bracket
  | 0, b => b
  | k + 1, b =>
    if limit < b.q + b.q' then b
    else
      let above := b.above num den
      let below := b.below num den
      if below ≤ above then
        let t := min (above / below) ((limit - b.q - b.q') / b.q' + 1)
        refine num den limit k ⟨b.q + t * b.q', b.p + t * b.p', b.q', b.p'⟩
      else
        let most := (limit - b.q - b.q') / b.q + 1
        let t := if above = 0 then most else min ((below - 1) / above) most
        refine num den limit k ⟨b.q, b.p, b.q' + t * b.q, b.p' + t * b.p⟩

end Bracket

/-! ## 2. The 254 exponents -/

/-- The least power of ten from `2 ^ s` half units on; a half unit is `2 ^ (-150)`. -/
def gridPower (s : Nat) : Int := -((150 - (s : Int)) * 30103 / 100000)

/-- That power of ten is `gridNum s / gridDen s` times `2 ^ s` half units. -/
def gridNum (s : Nat) : Nat := 10 ^ (gridPower s).toNat * 2 ^ (150 - s)

/-- See `gridNum`. -/
def gridDen (s : Nat) : Nat := 10 ^ (-gridPower s).toNat * 2 ^ (s - 150)

/-- The greatest multiple of the power of ten that is not above `2 ^ 25 * 2 ^ s` half units. -/
def gridLimit (s : Nat) : Nat := 2 ^ 25 * gridDen s / gridNum s

/-- Two fractions around the power of ten. -/
def bracket (s : Nat) : Bracket :=
  Bracket.refine (gridNum s) (gridDen s) (gridLimit s) 60 ⟨1, gridNum s / gridDen s, 0, 1⟩

/-- The middles to which a decimal is near without being the same: `(s, n)` for `n * 2 ^ s`. -/
def closeMiddles : List (Nat × Nat) := [(42, 22841339), (43, 22841339), (100, 28874659)]

/-- A fraction `p / q`, at a distance of `d / q`, tells of no other middle than those.  Either it is the
number itself, or too far from it; or its double is not taken for an odd `n` and its triple is too large,
and the fraction belongs to none of the numbers of its exponent, or to one of those middles. -/
def Settled (s q p d : Nat) : Prop :=
  d = 0 ∨ gridDen s ≤ d * 2 ^ 27 ∨
    gridLimit s < 3 * q ∧ (0 < s ∧ p < 2 ^ 24 ∨ (s, p) ∈ closeMiddles)

instance (s q p d : Nat) : Decidable (Settled s q p d) := by
  unfold Settled
  infer_instance

/-- One of the two fractions is too far from the number, and the other one is settled. -/
def Apart (s : Nat) (b : Bracket) : Prop :=
  gridDen s ≤ b.below (gridNum s) (gridDen s) * 2 ^ 27 ∧
      Settled s b.q b.p (b.above (gridNum s) (gridDen s)) ∨
    gridDen s ≤ b.above (gridNum s) (gridDen s) * 2 ^ 27 ∧
      Settled s b.q' b.p' (b.below (gridNum s) (gridDen s))

instance (s : Nat) (b : Bracket) : Decidable (Apart s b) := by
  unfold Apart
  infer_instance

/-- **The pairs are checked.** -/
theorem bracket_checked : ∀ s < 254, 0 < gridNum s ∧ gridNum s < 10 * gridDen s ∧
    (bracket s).Around (gridNum s) (gridDen s) (gridLimit s) ∧ Apart s (bracket s) := by
  decide +kernel

/-- A settled fraction is no other middle. -/
theorem Settled.middle {s q p d t c n : Nat} (h : Settled s q p d) (hodd : n % 2 = 1)
    (hn : s = 0 ∨ 2 ^ 24 < n) (hc : c ≤ gridLimit s) (hcq : c = t * q) (hnp : n = t * p)
    (hdist : |(c * gridNum s - n * gridDen s : Int)| = t * d)
    (hclose : |(c * gridNum s - n * gridDen s : Int)| * 2 ^ 27 < gridDen s) :
    c * gridNum s = n * gridDen s ∨ (s, n) ∈ closeMiddles := by
  have ht : 0 < t := Nat.pos_of_ne_zero fun hzero => by simp [hnp, hzero] at hodd
  rcases h with rfl | hfar | ⟨hlarge, hp⟩
  · left
    rw [Nat.cast_zero, mul_zero, abs_eq_zero, sub_eq_zero] at hdist
    exact_mod_cast hdist
  · rw [hdist] at hclose
    have hclose' : t * d * 2 ^ 27 < gridDen s := by exact_mod_cast hclose
    have hle : d * 2 ^ 27 ≤ t * d * 2 ^ 27 := Nat.mul_le_mul_right _ (Nat.le_mul_of_pos_left d ht)
    omega
  · -- three times the fraction is too large, and twice the fraction is even
    have hone : t = 1 := by
      have hlt : t < 3 := Nat.lt_of_mul_lt_mul_right (hcq ▸ hc.trans_lt hlarge)
      have hne : t ≠ 2 := by
        rintro rfl
        omega
      omega
    rw [hone, Nat.one_mul] at hnp
    subst hnp
    exact .inr (hp.resolve_left (by omega))

/-- **A decimal that is nearer to a middle than a part in `2 ^ 27` is that middle**, with the exception of
three. -/
theorem close_middle {s c n : Nat} (hs : s < 254) (hodd : n % 2 = 1) (hn : s = 0 ∨ 2 ^ 24 < n)
    (hc : c * gridNum s ≤ 2 ^ 25 * gridDen s)
    (hclose : |(c * gridNum s - n * gridDen s : Int)| * 2 ^ 27 < gridDen s) :
    c * gridNum s = n * gridDen s ∨ (s, n) ∈ closeMiddles := by
  obtain ⟨hnum, -, haround, hapart⟩ := bracket_checked s hs
  have hlimit : c ≤ gridLimit s := (Nat.le_div_iff_mul_le hnum).mpr hc
  have hpos : 0 < n := by omega
  rcases hapart with ⟨hfar, hsettled⟩ | ⟨hfar, hsettled⟩
  · obtain ⟨t, hcq, hnp, hdist⟩ := haround.multiple_low hlimit hpos hclose hfar
    exact hsettled.middle hodd hn hlimit hcq hnp hdist hclose
  · obtain ⟨t, hcq, hnp, hdist⟩ := haround.multiple_high hlimit hpos hclose hfar
    exact hsettled.middle hodd hn hlimit hcq hnp hdist hclose

end SoundEngine
