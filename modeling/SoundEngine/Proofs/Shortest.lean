import SoundEngine.Decimal.Shortest
import SoundEngine.Proofs.Rounding

/-!
# The shortest decimal rounds to its number

The search for the shortest decimal goes down the powers of ten and tries two neighbours on each grid.
That what it finds rounds to the number is checked on the way; what has to be shown is that it finds
something.  It does, for on the last grid that is tried the number itself is one of the two: a multiple
of `2 ^ (-scale)` is a multiple of `10 ^ (-scale)` (`onGrid?_finest`).

* §1 makes the order of values strict: two patterns never have the same value.
* §2 is the search.
* §3 reads off what is needed of a decimal that rounds to a number.  It is not zero, and it has no more
  digits in front of its point than the greatest number has.
-/

namespace SoundEngine

namespace Format

variable (f : Format)

/-! ## 1. Different patterns have different values -/

/-- The value of a pattern is less than the first one of the next exponent. -/
theorem units_lt (m : Nat) :
    f.units m < Nat.pow 2 f.fraction * 2 ^ (m / Nat.pow 2 f.fraction) := by
  have hmod : m % Nat.pow 2 f.fraction < Nat.pow 2 f.fraction :=
    Nat.mod_lt m (Nat.pow_pos (by decide))
  unfold units
  dsimp only
  split_ifs with he
  · rw [he, Nat.pow_zero, Nat.mul_one]
    exact hmod
  · obtain ⟨e, he⟩ := Nat.exists_eq_succ_of_ne_zero he
    rw [he, Nat.succ_sub_one, Nat.succ_eq_add_one, Nat.pow_succ, Nat.mul_comm (2 ^ e) 2,
      ← Nat.mul_assoc, Nat.mul_two]
    exact Nat.mul_lt_mul_of_pos_right (Nat.add_lt_add_left hmod _) (Nat.pow_pos (by decide))

theorem units_lt_units {m m' : Nat} (h : m < m') : f.units m < f.units m' := by
  have hdiv : m / Nat.pow 2 f.fraction ≤ m' / Nat.pow 2 f.fraction := Nat.div_le_div_right h.le
  rcases Nat.lt_or_eq_of_le hdiv with hlt | heq
  · calc f.units m < Nat.pow 2 f.fraction * 2 ^ (m / Nat.pow 2 f.fraction) := f.units_lt m
      _ ≤ Nat.pow 2 f.fraction * 2 ^ (m' / Nat.pow 2 f.fraction - 1) :=
          Nat.mul_le_mul_left _ (Nat.pow_le_pow_right (by decide) (Nat.le_sub_one_of_lt hlt))
      _ ≤ f.units m' := f.le_units (Nat.ne_zero_of_lt hlt)
  · have hmod : m % Nat.pow 2 f.fraction < m' % Nat.pow 2 f.fraction := by
      have hm := Nat.div_add_mod m (Nat.pow 2 f.fraction)
      have hm' := Nat.div_add_mod m' (Nat.pow 2 f.fraction)
      rw [heq] at hm
      omega
    unfold units
    dsimp only
    rw [heq]
    split_ifs
    · exact hmod
    · exact Nat.mul_lt_mul_of_pos_right (Nat.add_lt_add_left hmod _) (Nat.pow_pos (by decide))

/-! ## 2. The search -/

section Search

variable {f} {tie : Tie} {m c : Nat} {e : Int}

/-- A decimal that rounds to a pattern lies between the middles to its neighbours. -/
theorem between_of_roundsTo (h : f.roundsTo m c e = true) :
    (f.units (m - 1) + f.units m) * 10 ^ (-e).toNat ≤ c * 10 ^ e.toNat * 2 ^ (f.scale + 1) ∧
      c * 10 ^ e.toNat * 2 ^ (f.scale + 1) ≤
        (f.units m + f.units (m + 1)) * 10 ^ (-e).toNat := by
  simp only [roundsTo, Nat.pow_eq] at h
  split at h <;> simp only [Bool.and_eq_true, decide_eq_true_eq] at h
  · exact h
  · exact ⟨h.1.le, h.2.le⟩

/-- A decimal that equals a number rounds to it. -/
theorem roundsTo_of_eq (hm : 0 < m)
    (heq : c * 10 ^ e.toNat * 2 ^ f.scale = f.units m * 10 ^ (-e).toNat) :
    f.roundsTo m c e = true := by
  have hten : 0 < 10 ^ (-e).toNat := Nat.pow_pos (by decide)
  have hvalue : c * 10 ^ e.toNat * 2 ^ (f.scale + 1) =
      (f.units m + f.units m) * 10 ^ (-e).toNat := by
    rw [Nat.pow_succ, ← Nat.mul_assoc, heq, ← Nat.two_mul, Nat.mul_right_comm, Nat.mul_comm 2]
  have hlow : (f.units (m - 1) + f.units m) * 10 ^ (-e).toNat <
      (f.units m + f.units m) * 10 ^ (-e).toNat :=
    Nat.mul_lt_mul_of_pos_right
      (Nat.add_lt_add_right (f.units_lt_units (Nat.sub_lt hm Nat.one_pos)) _) hten
  have hhigh : (f.units m + f.units m) * 10 ^ (-e).toNat <
      (f.units m + f.units (m + 1)) * 10 ^ (-e).toNat :=
    Nat.mul_lt_mul_of_pos_right (Nat.add_lt_add_left (f.units_lt_units (Nat.lt_succ_self m)) _) hten
  simp only [roundsTo, Nat.pow_eq, hvalue]
  split <;> simp only [Bool.and_eq_true, decide_eq_true_eq]
  · exact ⟨hlow.le, hhigh.le⟩
  · exact ⟨hlow, hhigh⟩

/-- What is found on a grid rounds to the number. -/
theorem roundsTo_of_onGrid? (h : f.onGrid? tie m e = some c) : f.roundsTo m c e = true := by
  unfold onGrid? at h
  dsimp only at h
  split at h
  · next hbelow habove =>
    cases h
    split_ifs
    · exact hbelow
    · exact habove
  · next hbelow _ =>
    cases h
    exact hbelow
  · next _ habove =>
    cases h
    exact habove
  · cases h

/-- **The finest grid has the number itself.** -/
theorem onGrid?_finest (tie : Tie) (hm : 0 < m) : f.onGrid? tie m (-(f.scale : Int)) ≠ none := by
  have hneg : (-(f.scale : Int)).toNat = 0 := by omega
  have hpos : (-(-(f.scale : Int))).toNat = f.scale := by omega
  have hten : (10 : Nat) ^ f.scale = 5 ^ f.scale * 2 ^ f.scale := by
    rw [← Nat.mul_pow]
  have hbelow : f.units m * 10 ^ f.scale / 2 ^ f.scale = f.units m * 5 ^ f.scale := by
    rw [hten, ← Nat.mul_assoc, Nat.mul_div_cancel _ (Nat.pow_pos (by decide))]
  have hexact : f.roundsTo m (f.units m * 5 ^ f.scale) (-(f.scale : Int)) = true := by
    refine roundsTo_of_eq hm ?_
    rw [hneg, hpos, hten, Nat.pow_zero, Nat.mul_one, Nat.mul_assoc]
  unfold onGrid?
  simp only [Nat.pow_eq, hneg, hpos, Nat.pow_zero, Nat.mul_one, hbelow, hexact]
  cases f.roundsTo m (f.units m * 5 ^ f.scale + 1) (-(f.scale : Int)) <;> simp

/-- A search that reaches the finest grid finds a decimal. -/
theorem searchGrids_roundsTo (hm : 0 < m) : ∀ {k : Nat} {top : Int}, top - k < -(f.scale : Int) →
    -(f.scale : Int) ≤ top →
      f.roundsTo m (f.searchGrids tie m top k).coefficient (f.searchGrids tie m top k).exponent
  | 0, top, hlast, hfirst => absurd hfirst (by omega)
  | k + 1, top, hlast, hfirst => by
    unfold searchGrids
    split
    · next c hc => exact roundsTo_of_onGrid? hc
    · next hnone =>
      have hne : top ≠ -(f.scale : Int) := by
        rintro rfl
        exact onGrid?_finest tie hm hnone
      exact searchGrids_roundsTo hm (by omega) (by omega)

/-- **The shortest decimal of a number rounds to it.** -/
theorem shortest_roundsTo (tie : Tie) (hm : 0 < m) :
    f.roundsTo m (f.shortest tie m).coefficient (f.shortest tie m).exponent = true :=
  searchGrids_roundsTo hm (by omega) (by omega)

end Search

/-! ## 3. How large a shortest decimal is -/

theorem shortest_coefficient_pos (tie : Tie) {m : Nat} (hm : 0 < m) :
    0 < (f.shortest tie m).coefficient := by
  obtain ⟨hlow, -⟩ := between_of_roundsTo (shortest_roundsTo (f := f) tie hm)
  have hunits : 0 < f.units m := (Nat.zero_le _).trans_lt (f.units_lt_units hm)
  have hpos : 0 < (f.units (m - 1) + f.units m) * 10 ^ (-(f.shortest tie m).exponent).toNat :=
    Nat.mul_pos (Nat.add_pos_right _ hunits) (Nat.pow_pos (by decide))
  refine Nat.pos_of_ne_zero fun hzero => ?_
  rw [hzero, Nat.zero_mul, Nat.zero_mul] at hlow
  omega

/-- A decimal of a finite number is not greater than the next power of two after the greatest one. -/
theorem shortest_le (tie : Tie) {m k : Nat} (hm : 0 < m) (hfin : m < f.infinity)
    (hk : f.units f.infinity = 2 ^ k * 2 ^ f.scale) :
    (f.shortest tie m).coefficient * 10 ^ (f.shortest tie m).exponent.toNat ≤
      2 ^ k * 10 ^ (-(f.shortest tie m).exponent).toNat := by
  obtain ⟨-, hhigh⟩ := between_of_roundsTo (shortest_roundsTo (f := f) tie hm)
  have hsum : f.units m + f.units (m + 1) ≤ 2 ^ k * 2 ^ f.scale * 2 := by
    have hle := f.units_mono hfin.le
    have hle' : f.units (m + 1) ≤ f.units f.infinity := f.units_mono hfin
    rw [hk] at hle hle'
    omega
  have hscaled := hhigh.trans (Nat.mul_le_mul_right _ hsum)
  rw [Nat.mul_assoc (2 ^ k), ← Nat.pow_succ, Nat.mul_right_comm (2 ^ k)] at hscaled
  exact Nat.le_of_mul_le_mul_right hscaled (Nat.pow_pos (by decide))

theorem pow_le_of_toDigits {n : Nat} (hn : 0 < n) : 10 ^ ((Nat.toDigits 10 n).length - 1) ≤ n := by
  rcases Nat.eq_zero_or_pos ((Nat.toDigits 10 n).length - 1) with hone | hmore
  · rw [hone]
    exact hn
  · have hshort : ¬ (Nat.toDigits 10 n).length ≤ (Nat.toDigits 10 n).length - 1 := by omega
    rw [Nat.length_toDigits_le_iff (by decide) hmore] at hshort
    exact Nat.le_of_not_lt hshort

/-- The leading digit of a 32-bit number is at the place 38 or behind it. -/
theorem lead_le (tie : Tie) {m : Nat} (hm : 0 < m) (hfin : m < single.infinity) :
    (single.shortest tie m).exponent +
      (Nat.toDigits 10 (single.shortest tie m).coefficient).length - 1 ≤ 38 := by
  have hle := single.shortest_le tie (k := 128) hm hfin (by decide +kernel)
  have hdigits := pow_le_of_toDigits (single.shortest_coefficient_pos tie hm)
  have hdigit : 0 < (Nat.toDigits 10 (single.shortest tie m).coefficient).length :=
    Nat.length_toDigits_pos
  generalize (Nat.toDigits 10 (single.shortest tie m).coefficient).length = n at hdigits hdigit ⊢
  generalize single.shortest tie m = d at hle hdigits ⊢
  have hpow : 10 ^ (n - 1 + d.exponent.toNat) < 10 ^ (39 + (-d.exponent).toNat) :=
    calc 10 ^ (n - 1 + d.exponent.toNat) = 10 ^ (n - 1) * 10 ^ d.exponent.toNat := Nat.pow_add ..
      _ ≤ d.coefficient * 10 ^ d.exponent.toNat := Nat.mul_le_mul_right _ hdigits
      _ ≤ 2 ^ 128 * 10 ^ (-d.exponent).toNat := hle
      _ < 10 ^ 39 * 10 ^ (-d.exponent).toNat :=
          Nat.mul_lt_mul_of_pos_right (by decide) (Nat.pow_pos (by decide))
      _ = 10 ^ (39 + (-d.exponent).toNat) := (Nat.pow_add ..).symm
  have hplaces := (Nat.pow_lt_pow_iff_right (by decide)).mp hpow
  omega

end Format

end SoundEngine
