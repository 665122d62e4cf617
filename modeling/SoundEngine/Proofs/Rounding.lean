import Mathlib
import SoundEngine.Binary.Rounding

/-!
# Rounding keeps the order

Every level that the engine computes is a quotient or a product that was rounded once.  What is known
about it afterwards rests on one fact: to round never turns the order of two results around.  So a
bound on the exact operands is a bound on the rounded result, provided that the bound itself is
computed without an error.

* §1 rounds a quotient of naturals; the step from one quotient to the next is where the order could
  get lost, and half a unit is not enough for that.
* §2 is the pattern nearest to a quotient (`Format.nearest_mono`).  Two quotients of different
  magnitude are rounded with different units; the power of two between them separates the results.
* §3 is the order on numbers, with its two zeros, and what clamping, dividing and multiplying do to
  it.  Not-a-number stands in no order, so whatever has a bound is a number.
-/

namespace SoundEngine

/-! ## 1. A half to the even one -/

theorem div_le_roundHalfEven (num den : Nat) : num / den ≤ roundHalfEven num den := by
  unfold roundHalfEven
  dsimp only
  split_ifs <;> omega

theorem roundHalfEven_le_succ (num den : Nat) : roundHalfEven num den ≤ num / den + 1 := by
  unfold roundHalfEven
  dsimp only
  split_ifs <;> omega

theorem roundHalfEven_mono {num num' : Nat} (den : Nat) (h : num ≤ num') :
    roundHalfEven num den ≤ roundHalfEven num' den := by
  have hdiv : num / den ≤ num' / den := Nat.div_le_div_right h
  rcases Nat.lt_or_eq_of_le hdiv with hlt | heq
  · calc roundHalfEven num den ≤ num / den + 1 := roundHalfEven_le_succ num den
      _ ≤ num' / den := hlt
      _ ≤ roundHalfEven num' den := div_le_roundHalfEven num' den
  · -- with one quotient for both, the remainders keep the order
    have hmod : num % den ≤ num' % den := by
      have hnum := Nat.div_add_mod num den
      have hnum' := Nat.div_add_mod num' den
      rw [heq] at hnum
      omega
    unfold roundHalfEven
    dsimp only
    rw [heq]
    split_ifs <;> omega

/-- What is whole is not rounded. -/
theorem roundHalfEven_mul (k : Nat) {den : Nat} (hden : 0 < den) :
    roundHalfEven (k * den) den = k := by
  unfold roundHalfEven
  dsimp only
  rw [Nat.mul_mod_left, Nat.mul_div_cancel k hden, Nat.mul_zero, if_pos hden]

theorem roundHalfEven_le {num den k : Nat} (hden : 0 < den) (h : num ≤ k * den) :
    roundHalfEven num den ≤ k :=
  (roundHalfEven_mono den h).trans_eq (roundHalfEven_mul k hden)

theorem le_roundHalfEven {num den k : Nat} (hden : 0 < den) (h : k * den ≤ num) :
    k ≤ roundHalfEven num den :=
  (roundHalfEven_mul k hden).symm.trans_le (roundHalfEven_mono den h)

/-! ## 2. The nearest pattern -/

namespace Format

variable (f : Format)

/-- How often the unit is doubled to write a quotient of this magnitude. -/
def shift (num den : Nat) : Nat := (num / den).log2 - f.fraction

theorem nearest_eq (num den : Nat) :
    f.nearest num den = min (f.shift num den * Nat.pow 2 f.fraction +
      roundHalfEven num (den * Nat.pow 2 (f.shift num den))) f.infinity := rfl

theorem nearest_le (num den : Nat) : f.nearest num den ≤ f.infinity := Nat.min_le_right _ _

theorem shift_mono {num num' : Nat} (den : Nat) (h : num ≤ num') :
    f.shift num den ≤ f.shift num' den := by
  unfold shift
  rw [Nat.log2_eq_log_two, Nat.log2_eq_log_two]
  exact Nat.sub_le_sub_right (Nat.log_mono_right (Nat.div_le_div_right h)) _

/-- With the unit doubled, a quotient is less than two powers of two. -/
theorem le_of_shift (num : Nat) {den : Nat} (hden : 0 < den) :
    num ≤ (2 * Nat.pow 2 f.fraction) * (den * Nat.pow 2 (f.shift num den)) := by
  have hlog : num / den < 2 ^ ((num / den).log2 + 1) := Nat.lt_log2_self
  have hpow : 2 ^ ((num / den).log2 + 1) ≤ 2 ^ (f.shift num den + f.fraction + 1) :=
    Nat.pow_le_pow_right (by decide) (by unfold shift; omega)
  have hlt : num < 2 ^ (f.shift num den + f.fraction + 1) * den :=
    (Nat.div_lt_iff_lt_mul hden).mp (hlog.trans_le hpow)
  refine hlt.le.trans_eq ?_
  simp only [Nat.pow_eq, Nat.pow_add, Nat.pow_one]
  ac_rfl

/-- If the unit is doubled at all, a quotient is at least one power of two. -/
theorem le_of_shift_pos {num den : Nat} (hden : 0 < den) (h : 0 < f.shift num den) :
    Nat.pow 2 f.fraction * (den * Nat.pow 2 (f.shift num den)) ≤ num := by
  have hne : num / den ≠ 0 := by
    intro hzero
    unfold shift at h
    rw [hzero] at h
    simp at h
  have hexp : (num / den).log2 = f.shift num den + f.fraction := by
    unfold shift at h ⊢
    omega
  have hlog : 2 ^ (num / den).log2 ≤ num / den := Nat.log2_self_le hne
  have hle : 2 ^ (num / den).log2 * den ≤ num := (Nat.le_div_iff_mul_le hden).mp hlog
  refine le_trans (le_of_eq ?_) hle
  rw [hexp]
  simp only [Nat.pow_eq, Nat.pow_add]
  ac_rfl

/-- **The nearest pattern keeps the order.** -/
theorem nearest_mono {num num' den : Nat} (hden : 0 < den) (h : num ≤ num') :
    f.nearest num den ≤ f.nearest num' den := by
  rw [nearest_eq, nearest_eq]
  refine min_le_min_right _ ?_
  have hpos : ∀ s, 0 < den * Nat.pow 2 s := fun s => Nat.mul_pos hden (Nat.pow_pos (by decide))
  rcases Nat.lt_or_eq_of_le (f.shift_mono den h) with hlt | heq
  · -- a power of two lies between them
    have hlow : roundHalfEven num (den * Nat.pow 2 (f.shift num den)) ≤ 2 * Nat.pow 2 f.fraction :=
      roundHalfEven_le (hpos _) (f.le_of_shift num hden)
    have hhigh : Nat.pow 2 f.fraction ≤
        roundHalfEven num' (den * Nat.pow 2 (f.shift num' den)) :=
      le_roundHalfEven (hpos _) (f.le_of_shift_pos hden (by omega))
    calc f.shift num den * Nat.pow 2 f.fraction +
          roundHalfEven num (den * Nat.pow 2 (f.shift num den))
        ≤ f.shift num den * Nat.pow 2 f.fraction + 2 * Nat.pow 2 f.fraction :=
          Nat.add_le_add_left hlow _
      _ = (f.shift num den + 1) * Nat.pow 2 f.fraction + Nat.pow 2 f.fraction := by
          rw [Nat.add_mul, Nat.one_mul, Nat.two_mul, Nat.add_assoc]
      _ ≤ f.shift num' den * Nat.pow 2 f.fraction + Nat.pow 2 f.fraction :=
          Nat.add_le_add_right (Nat.mul_le_mul_right _ hlt) _
      _ ≤ f.shift num' den * Nat.pow 2 f.fraction +
          roundHalfEven num' (den * Nat.pow 2 (f.shift num' den)) :=
          Nat.add_le_add_left hhigh _
  · rw [heq]
    exact Nat.add_le_add_left (roundHalfEven_mono _ h) _

theorem nearest_zero (den : Nat) : f.nearest 0 den = 0 := by
  rw [nearest_eq]
  simp [shift, roundHalfEven]

/-- The value of a pattern is at most the first one of the next exponent. -/
theorem units_le (m : Nat) :
    f.units m ≤ Nat.pow 2 f.fraction * 2 ^ (m / Nat.pow 2 f.fraction) := by
  have hmod : m % Nat.pow 2 f.fraction < Nat.pow 2 f.fraction :=
    Nat.mod_lt m (Nat.pow_pos (by decide))
  unfold units
  dsimp only
  split_ifs with he
  · rw [he, Nat.pow_zero, Nat.mul_one]
    exact hmod.le
  · obtain ⟨e, he⟩ := Nat.exists_eq_succ_of_ne_zero he
    rw [he, Nat.succ_sub_one, Nat.succ_eq_add_one, Nat.pow_succ, Nat.mul_comm (2 ^ e) 2,
      ← Nat.mul_assoc, Nat.mul_two]
    exact Nat.mul_le_mul_right _ (Nat.add_le_add_left hmod.le _)

/-- The value of a pattern is at least the first one of its exponent. -/
theorem le_units {m : Nat} (he : m / Nat.pow 2 f.fraction ≠ 0) :
    Nat.pow 2 f.fraction * 2 ^ (m / Nat.pow 2 f.fraction - 1) ≤ f.units m := by
  unfold units
  dsimp only
  rw [if_neg he]
  exact Nat.mul_le_mul_right _ (Nat.le_add_right _ _)

/-- Greater patterns have greater values. -/
theorem units_mono {m m' : Nat} (h : m ≤ m') : f.units m ≤ f.units m' := by
  have hdiv : m / Nat.pow 2 f.fraction ≤ m' / Nat.pow 2 f.fraction := Nat.div_le_div_right h
  rcases Nat.lt_or_eq_of_le hdiv with hlt | heq
  · calc f.units m ≤ Nat.pow 2 f.fraction * 2 ^ (m / Nat.pow 2 f.fraction) := f.units_le m
      _ ≤ Nat.pow 2 f.fraction * 2 ^ (m' / Nat.pow 2 f.fraction - 1) :=
          Nat.mul_le_mul_left _ (Nat.pow_le_pow_right (by decide) (Nat.le_sub_one_of_lt hlt))
      _ ≤ f.units m' := f.le_units (Nat.ne_zero_of_lt hlt)
  · -- of one exponent, the patterns differ in the fraction alone
    have hmod : m % Nat.pow 2 f.fraction ≤ m' % Nat.pow 2 f.fraction := by
      have hm := Nat.div_add_mod m (Nat.pow 2 f.fraction)
      have hm' := Nat.div_add_mod m' (Nat.pow 2 f.fraction)
      rw [heq] at hm
      omega
    unfold units
    dsimp only
    rw [heq]
    split_ifs
    · exact hmod
    · exact Nat.mul_le_mul_right _ (Nat.add_le_add_left hmod _)

theorem units_zero : f.units 0 = 0 := by
  simp [units]

/-- The pattern of a quotient by the finite number of pattern `d`. -/
def quotient (d m : Nat) : Nat :=
  if m = f.infinity then f.infinity else f.nearest (f.units m * Nat.pow 2 f.scale) (f.units d)

theorem quotient_zero (d : Nat) (hinf : 0 < f.infinity) : f.quotient d 0 = 0 := by
  unfold quotient
  rw [if_neg hinf.ne, units_zero, Nat.zero_mul, nearest_zero]

theorem quotient_mono {d m m' : Nat} (hd : 0 < f.units d) (h : m ≤ m') (hm' : m' ≤ f.infinity) :
    f.quotient d m ≤ f.quotient d m' := by
  unfold quotient
  split_ifs with hm hm'
  · exact le_rfl
  · omega
  · exact f.nearest_le _ _
  · exact f.nearest_mono hd (Nat.mul_le_mul_right _ (f.units_mono h))

end Format

/-! ## 3. The order on numbers -/

namespace Binary

variable {f : Format} {x y low high : Binary f}

/-- `x ≤ y`, false when either is not a number. -/
def le (x y : Binary f) : Bool :=
  match x.key?, y.key? with
  | some a, some b => decide (a ≤ b)
  | _, _ => false

/-- A number from `low` to `high`. -/
def Within (low high x : Binary f) : Prop := low.le x = true ∧ x.le high = true

instance (low high x : Binary f) : Decidable (Within low high x) :=
  inferInstanceAs (Decidable (_ ∧ _))

/-- A pattern with its sign. -/
def signed (negative : Bool) (m : Nat) : Int := if negative then -(m : Int) else m

theorem key?_number (s : Bool) (m : Fin (f.infinity + 1)) :
    (number s m).key? = some (signed s m) := by
  cases s <;> rfl

theorem le_number_iff {s t : Bool} {m n : Fin (f.infinity + 1)} :
    (number s m).le (number t n) = true ↔ signed s m ≤ signed t n := by
  unfold le
  rw [key?_number, key?_number]
  exact decide_eq_true_iff

theorem lt_number_iff {s t : Bool} {m n : Fin (f.infinity + 1)} :
    (number s m).lt (number t n) = true ↔ signed s m < signed t n := by
  unfold lt
  rw [key?_number, key?_number]
  exact decide_eq_true_iff

/-- What stands in the order are numbers. -/
theorem numbers_of_le (h : x.le y = true) : ∃ s m t n, x = number s m ∧ y = number t n := by
  cases x with
  | nan => exact absurd h (by simp [le, key?])
  | number s m =>
    cases y with
    | nan => exact absurd h (by simp [le, key?])
    | number t n => exact ⟨s, m, t, n, rfl, rfl⟩

theorem Within.isNaN (h : Within low high x) : x.isNaN = false := by
  obtain ⟨_, _, _, _, rfl, -⟩ := numbers_of_le h.2
  rfl

/-- A number is clamped into its range. -/
theorem within_clamp (hx : x.isNaN = false) (h : low.le high = true) :
    Within low high (x.clamp low high) := by
  obtain ⟨s, m, t, n, rfl, rfl⟩ := numbers_of_le h
  cases x with
  | nan => exact absurd hx (by simp [Binary.isNaN])
  | number u k =>
    unfold clamp
    split_ifs with hlow hhigh
    · exact ⟨le_number_iff.mpr le_rfl, h⟩
    · exact ⟨h, le_number_iff.mpr le_rfl⟩
    · rw [lt_number_iff] at hlow hhigh
      exact ⟨le_number_iff.mpr (not_lt.mp hlow), le_number_iff.mpr (not_lt.mp hhigh)⟩

/-- What is in the range is not changed. -/
theorem clamp_of_within (h : Within low high x) : x.clamp low high = x := by
  obtain ⟨u, k, s, m, rfl, rfl⟩ := numbers_of_le h.1
  obtain ⟨-, -, t, n, -, rfl⟩ := numbers_of_le h.2
  have hlow : ¬ (number s m).lt (number u k) = true :=
    fun hlt => not_lt.mpr (le_number_iff.mp h.1) (lt_number_iff.mp hlt)
  have hhigh : ¬ (number t n).lt (number s m) = true :=
    fun hlt => not_lt.mpr (le_number_iff.mp h.2) (lt_number_iff.mp hlt)
  unfold clamp
  rw [if_neg hlow, if_neg hhigh]

/-- To clamp twice into one range is to clamp once, and not-a-number stays what it is. -/
theorem clamp_clamp (h : low.le high = true) (x : Binary f) :
    (x.clamp low high).clamp low high = x.clamp low high := by
  cases x with
  | nan =>
    unfold clamp
    simp [lt, key?]
  | number s m => exact clamp_of_within (within_clamp rfl h)

theorem isNaN_clamp (h : low.le high = true) (x : Binary f) :
    (x.clamp low high).isNaN = x.isNaN := by
  cases x with
  | nan =>
    unfold clamp
    simp [lt, key?]
  | number s m => exact (within_clamp rfl h).isNaN

/-- What maps patterns in their order and keeps zero maps numbers in their order. -/
theorem le_ofPattern {φ : Nat → Nat} (hzero : φ 0 = 0)
    (hφ : ∀ {m n : Nat}, m ≤ n → n ≤ f.infinity → φ m ≤ φ n) {s t : Bool}
    {m n : Fin (f.infinity + 1)} (h : (number s m).le (number t n) = true) :
    (ofPattern s (φ m) : Binary f).le (ofPattern t (φ n)) = true := by
  unfold ofPattern
  rw [le_number_iff] at h ⊢
  have hm := Nat.le_of_lt_succ m.isLt
  have hn := Nat.le_of_lt_succ n.isLt
  cases s <;> cases t <;> simp only [signed, Bool.false_eq_true, if_true, if_false] at h ⊢
  · have := hφ (m := m) (n := n) (by omega) hn
    omega
  · -- from zero to zero, of whatever sign
    have hm0 : m.val = 0 := by omega
    have hn0 : n.val = 0 := by omega
    rw [hm0, hn0, hzero]
    simp
  · omega
  · have := hφ (m := n) (n := m) (by omega) hm
    omega

theorem infinite_eq (s : Bool) : (infinite s : Binary f) = ofPattern s f.infinity :=
  congrArg (number s) (Fin.ext (Nat.min_self _).symm)

theorem div_number {s : Bool} {m d : Fin (f.infinity + 1)} (hpos : 0 < d.val)
    (hfin : d.val < f.infinity) :
    (number s m).div (number false d) = ofPattern s (f.quotient d m) := by
  unfold div Format.quotient
  simp only [Bool.bne_false]
  rw [if_neg hfin.ne, if_neg hfin.ne, if_neg hpos.ne']
  split_ifs
  · exact infinite_eq s
  · rfl

/-- **To divide by a positive number keeps the order.** -/
theorem div_le_div {d : Fin (f.infinity + 1)} (hpos : 0 < f.units d) (hfin : d.val < f.infinity)
    (h : x.le y = true) : (x.div (number false d)).le (y.div (number false d)) = true := by
  have hd : 0 < d.val := by
    refine Nat.pos_of_ne_zero fun hzero => ?_
    rw [hzero, Format.units_zero] at hpos
    exact Nat.lt_irrefl 0 hpos
  obtain ⟨s, m, t, n, rfl, rfl⟩ := numbers_of_le h
  rw [div_number hd hfin, div_number hd hfin]
  exact le_ofPattern (f.quotient_zero d (hd.trans hfin)) (f.quotient_mono hpos) h

theorem mul_number {s t : Bool} {m n : Fin (f.infinity + 1)} (hm : m.val < f.infinity)
    (hn : n.val < f.infinity) :
    (number s m).mul (number t n) =
      ofPattern (s != t) (f.nearest (f.units m * f.units n) (Nat.pow 2 f.scale)) := by
  unfold mul
  simp only [hm.ne, hn.ne, or_self, if_false]

/-- From zero on, a number is its pattern; below zero there is only the other zero. -/
theorem within_zero_iff {o m : Fin (f.infinity + 1)} {s : Bool} :
    Within zero (number false o) (number s m) ↔ m ≤ o ∧ (s = true → m = 0) := by
  unfold Within zero
  rw [le_number_iff, le_number_iff, Fin.le_def, Fin.ext_iff, Fin.val_zero]
  cases s with
  | false => simp [signed]
  | true =>
    simp only [signed, if_true, Bool.false_eq_true, if_false, forall_const]
    omega

/-- **To multiply two numbers from zero to one gives another one**, where one is a number that
multiplied by itself is not rounded. -/
theorem mul_within {o : Fin (f.infinity + 1)} (hfin : o.val < f.infinity)
    (hone : f.nearest (f.units o * f.units o) (Nat.pow 2 f.scale) = o.val)
    (hx : Within zero (number false o) x) (hy : Within zero (number false o) y) :
    Within zero (number false o) (x.mul y) := by
  obtain ⟨s, m, -, -, rfl, -⟩ := numbers_of_le hx.2
  obtain ⟨t, n, -, -, rfl, -⟩ := numbers_of_le hy.2
  obtain ⟨hm, hs⟩ := within_zero_iff.mp hx
  obtain ⟨hn, ht⟩ := within_zero_iff.mp hy
  rw [mul_number (Nat.lt_of_le_of_lt hm hfin) (Nat.lt_of_le_of_lt hn hfin)]
  have hle : f.nearest (f.units m * f.units n) (Nat.pow 2 f.scale) ≤ o.val := by
    rw [← hone]
    refine f.nearest_mono (Nat.pow_pos (by decide)) ?_
    exact Nat.mul_le_mul (f.units_mono hm) (f.units_mono hn)
  refine within_zero_iff.mpr ⟨(Nat.min_le_left _ _).trans hle, fun hsign => Fin.ext ?_⟩
  -- of a negative product, one factor is the negative zero
  have hzero : f.units m * f.units n = 0 := by
    cases s with
    | true => rw [hs rfl, Fin.val_zero, Format.units_zero, Nat.zero_mul]
    | false =>
      have htrue : t = true := by simpa using hsign
      rw [ht htrue, Fin.val_zero, Format.units_zero, Nat.mul_zero]
  change min (f.nearest (f.units m * f.units n) _) _ = 0
  rw [hzero, Format.nearest_zero, Nat.zero_min]

end Binary

end SoundEngine
