import SoundEngine.Proofs.Nearest

/-!
# The shortest decimal has the fewest digits

The search for the shortest decimal stops at the first grid on which it finds one of the two neighbours of
the number.  If neither of the two rounds to the number then no multiple of this power of ten does, and
none of a greater power.  So what is found belongs to the coarsest grid, and this is why its digits are
the fewest (`shortest_fewest`): with fewer digits there would be a power of ten between two decimals of the
number, and that is on a coarser grid.

It is also why they are few.  On the next grid the step is at least half the distance to the middle, which
bounds the digits and the exponent.  And where the grid is finer than that, the decimal is the nearest one
of its grid (`shortest_near`).

* §1 has values as rationals, in units.
* §2 is one grid, §3 is the search.
* §4 has the bounds.
-/

namespace SoundEngine

namespace Format

variable (f : Format)

/-! ## 1. Values -/

/-- The value of `v` units rounds to the pattern `m`: it lies between the middles to both sides of the
number with this pattern.  A middle belongs to the even pattern beside it, so that both bounds are sharp
for an odd one. -/
structure Holds (m : Nat) (v : ℚ) : Prop where
  low : (f.units (m - 1) + f.units m : ℚ) ≤ 2 * v
  high : 2 * v ≤ f.units m + f.units (m + 1)
  odd : m % 2 = 1 → (f.units (m - 1) + f.units m : ℚ) < 2 * v ∧ 2 * v < f.units m + f.units (m + 1)

/-- The distance of the multiples of `10 ^ e`, in units. -/
def step (e : Int) : ℚ := 10 ^ e * 2 ^ f.scale

variable {f} {m num den c k : Nat} {e : Int} {v v' w : ℚ}

theorem nearest_iff_holds (hden : 0 < den) : f.Nearest m num den ↔ f.Holds m (num / den) := by
  have hpos : (0 : ℚ) < den := Nat.cast_pos.mpr hden
  have hle (a : Nat) : a * den ≤ 2 * num ↔ (a : ℚ) ≤ 2 * (num / den) := by
    rw [← mul_div_assoc, le_div_iff₀ hpos]
    exact_mod_cast Iff.rfl
  have hge (a : Nat) : 2 * num ≤ a * den ↔ 2 * (num / den) ≤ (a : ℚ) := by
    rw [← mul_div_assoc, div_le_iff₀ hpos]
    exact_mod_cast Iff.rfl
  have hlow := hle (f.units (m - 1) + f.units m)
  have hhigh := hge (f.units m + f.units (m + 1))
  have hlow' := (hge (f.units (m - 1) + f.units m)).not
  have hhigh' := (hle (f.units m + f.units (m + 1))).not
  rw [Nat.cast_add] at hlow hhigh hlow' hhigh'
  rw [not_le, not_le] at hlow' hhigh'
  constructor
  · rintro ⟨h, h', hodd⟩
    exact ⟨hlow.mp h, hhigh.mp h', fun hm => (hodd hm).imp hlow'.mp hhigh'.mp⟩
  · rintro ⟨h, h', hodd⟩
    exact ⟨hlow.mpr h, hhigh.mpr h', fun hm => (hodd hm).imp hlow'.mpr hhigh'.mpr⟩

/-- Quotients of one value have the same nearest pattern. -/
theorem nearest_congr (hfraction : 0 < f.fraction) {num' den' : Nat}
    (hden : 0 < den) (hden' : 0 < den') (h : (num : ℚ) / den = num' / den') :
    f.nearest num den = f.nearest num' den' := by
  have hnearest := nearest_rounded (f := f) num hden hfraction
  rw [nearest_iff_holds hden, h, ← nearest_iff_holds hden'] at hnearest
  rw [nearest_eq_min, nearest_eq_min,
    hnearest.unique hden' (nearest_rounded (f := f) num' hden' hfraction)]

theorem zpow_ten (e : Int) : (10 : ℚ) ^ e = 10 ^ e.toNat / 10 ^ (-e).toNat := by
  rcases Int.le_total 0 e with he | he
  · rw [Int.toNat_eq_zero.mpr (by omega : -e ≤ 0), pow_zero, div_one, ← zpow_natCast,
      Int.toNat_of_nonneg he]
  · rw [Int.toNat_eq_zero.mpr he, pow_zero, one_div, ← zpow_natCast, Int.toNat_of_nonneg (by omega),
      zpow_neg, inv_inv]

/-- A decimal rounds to a pattern if its value does. -/
theorem roundsTo_iff_holds : f.roundsTo m c e = true ↔ f.Holds m (c * f.step e) := by
  rw [roundsTo_iff, nearest_iff_holds (Nat.pow_pos (by decide))]
  have hvalue : ((c * 10 ^ e.toNat * 2 ^ f.scale : Nat) : ℚ) / (10 ^ (-e).toNat : Nat) = c * f.step e := by
    rw [step, zpow_ten]
    push_cast
    ring
  rw [hvalue]

theorem step_pos (e : Int) : 0 < f.step e := by
  unfold step
  positivity

theorem step_add (e : Int) (j : Nat) : f.step (e + j) = 10 ^ j * f.step e := by
  unfold step
  rw [zpow_add₀ (by norm_num), zpow_natCast]
  ring

/-- Strictly between the middles no parity matters. -/
theorem holds_of_between (hlow : (f.units (m - 1) + f.units m : ℚ) < 2 * v)
    (hhigh : 2 * v < f.units m + f.units (m + 1)) : f.Holds m v :=
  ⟨hlow.le, hhigh.le, fun _ => ⟨hlow, hhigh⟩⟩

theorem Holds.between (h : f.Holds m v) (h' : f.Holds m v') (hw : v ≤ w) (hw' : w ≤ v') :
    f.Holds m w :=
  ⟨by linarith [h.low], by linarith [h'.high],
    fun hm => ⟨by linarith [(h.odd hm).1], by linarith [(h'.odd hm).2]⟩⟩

/-- A value rounds to one pattern only. -/
theorem Holds.unique {m' : Nat} (h : f.Holds m v) (h' : f.Holds m' v) : m = m' := by
  have hunits : (0 : ℚ) ≤ f.units (m - 1) + f.units m := by positivity
  have hv : 0 ≤ v := by linarith [h.low]
  have hnum : ((v.num.toNat : Int) : ℚ) = v.num := by
    rw [Int.toNat_of_nonneg (Rat.num_nonneg.mpr hv)]
  have hquot : ((v.num.toNat : Nat) : ℚ) / v.den = v := by
    rw [← Int.cast_natCast, hnum, Rat.num_div_den]
  rw [← hquot, ← nearest_iff_holds v.den_pos] at h h'
  exact h.unique v.den_pos h'

theorem units_succ_cast (m : Nat) : (f.units (m + 1) : ℚ) = f.units m + f.gap m := by
  exact_mod_cast f.units_succ m

/-- A value less than half the distance above the pattern's own. -/
theorem holds_of_above (hm : 0 < m) (hlow : (f.units m : ℚ) ≤ v) (hhigh : 2 * v < 2 * f.units m + f.gap m) :
    f.Holds m v := by
  have hprev : (f.units (m - 1) : ℚ) < f.units m := by
    exact_mod_cast f.units_lt_units (Nat.sub_lt hm Nat.one_pos)
  refine holds_of_between (by linarith) ?_
  rw [units_succ_cast]
  linarith

theorem holds_units (hm : 0 < m) : f.Holds m (f.units m) := by
  have hgap : (0 : ℚ) < f.gap m := by exact_mod_cast f.gap_pos m
  exact holds_of_above hm le_rfl (by linarith)

/-- The value of a pattern is a multiple of its distance, by a number of the fraction's size. -/
theorem exists_units_eq (m : Nat) :
    ∃ r, r < 2 * 2 ^ f.fraction ∧ f.units m = r * f.gap m ∧ (0 < m → 0 < r) := by
  obtain ⟨k, r, rfl, hr, hk, hgap⟩ := f.exists_units m
  refine ⟨r, hr, ?_, fun hm => ?_⟩
  · rw [hgap, f.units_shift hk hr.le]
  · rcases hk with rfl | hk
    · omega
    · exact (Nat.pow_pos (by decide)).trans_le hk

theorem Holds.pos (hm : 0 < m) (h : f.Holds m v) : 0 < v := by
  have hunits : (0 : ℚ) < f.units m := by
    exact_mod_cast (Nat.zero_le _).trans_lt (f.units_lt_units hm)
  have hprev : (0 : ℚ) ≤ f.units (m - 1) := Nat.cast_nonneg _
  linarith [h.low]

/-! ## 2. A grid -/

section Grid

variable {tie : Tie}

theorem step_eq (f : Format) (e : Int) :
    f.step e = (2 ^ f.scale * 10 ^ e.toNat : Nat) / 10 ^ (-e).toNat := by
  rw [step, zpow_ten]
  push_cast
  ring

/-- The multiple below the pattern, and the rest. -/
theorem units_eq_grid (f : Format) (m : Nat) (e : Int) : (f.units m : ℚ) =
    (f.units m * 10 ^ (-e).toNat / (2 ^ f.scale * 10 ^ e.toNat) : Nat) * f.step e +
      (f.units m * 10 ^ (-e).toNat % (2 ^ f.scale * 10 ^ e.toNat) : Nat) / 10 ^ (-e).toNat := by
  have hpos : (0 : ℚ) < 10 ^ (-e).toNat := by positivity
  have hsplit : ((f.units m * 10 ^ (-e).toNat : Nat) : ℚ) =
      (2 ^ f.scale * 10 ^ e.toNat : Nat) *
          (f.units m * 10 ^ (-e).toNat / (2 ^ f.scale * 10 ^ e.toNat) : Nat) +
        (f.units m * 10 ^ (-e).toNat % (2 ^ f.scale * 10 ^ e.toNat) : Nat) := by
    exact_mod_cast (Nat.div_add_mod _ _).symm
  rw [step_eq, mul_div_assoc', ← add_div, eq_div_iff hpos.ne', mul_comm ((_ / _ : Nat) : ℚ), ← hsplit]
  push_cast
  ring

/-- The rest is less than a step. -/
theorem rest_lt_step (f : Format) (m : Nat) (e : Int) :
    ((f.units m * 10 ^ (-e).toNat % (2 ^ f.scale * 10 ^ e.toNat) : Nat) : ℚ) / 10 ^ (-e).toNat <
      f.step e := by
  have hlt := Nat.mod_lt (f.units m * 10 ^ (-e).toNat)
    (Nat.mul_pos (Nat.pow_pos (n := f.scale) (show 0 < 2 by decide))
      (Nat.pow_pos (n := e.toNat) (show 0 < 10 by decide)))
  rw [step_eq]
  exact div_lt_div_of_pos_right (Nat.cast_lt.mpr hlt) (by positivity)

/-- Every pattern lies between two multiples. -/
theorem exists_multiple (f : Format) (m : Nat) (e : Int) :
    ∃ k : Nat, k * f.step e ≤ f.units m ∧ f.units m < (k + 1) * f.step e := by
  have hrest := f.rest_lt_step m e
  have hrest₀ : (0 : ℚ) ≤ (f.units m * 10 ^ (-e).toNat % (2 ^ f.scale * 10 ^ e.toNat) : Nat) /
      10 ^ (-e).toNat := by positivity
  have hsplit := f.units_eq_grid m e
  exact ⟨_, by linarith, by linarith⟩

/-- **Where nothing is found there is nothing.** -/
theorem onGrid?_none (h : f.onGrid? tie m e = none) (hm : 0 < m) (c : Nat) : ¬ f.roundsTo m c e := by
  have hsplit := f.units_eq_grid m e
  have hrest := f.rest_lt_step m e
  have hrest₀ : (0 : ℚ) ≤ (f.units m * 10 ^ (-e).toNat % (2 ^ f.scale * 10 ^ e.toNat) : Nat) /
      10 ^ (-e).toNat := by positivity
  unfold onGrid? at h
  simp only [Nat.pow_eq] at h
  generalize f.units m * 10 ^ (-e).toNat / (2 ^ f.scale * 10 ^ e.toNat) = below at h hsplit
  split at h
  · cases h
  · cases h
  · cases h
  · next hbelow habove =>
    rw [← Bool.not_eq_true, roundsTo_iff_holds] at hbelow habove
    rw [roundsTo_iff_holds]
    intro hc
    have hstep := f.step_pos e
    rcases Nat.lt_or_ge below c with hlt | hge
    · have hle : (below + 1 : Nat) * f.step e ≤ c * f.step e :=
        mul_le_mul_of_nonneg_right (Nat.cast_le.mpr hlt) hstep.le
      refine habove ((holds_units hm).between hc ?_ hle)
      push_cast
      linarith
    · have hle : c * f.step e ≤ below * f.step e :=
        mul_le_mul_of_nonneg_right (Nat.cast_le.mpr hge) hstep.le
      exact hbelow (hc.between (holds_units hm) hle (by linarith))

/-- Of two multiples that both round to the pattern the nearer one is found. -/
theorem onGrid?_near (h : f.onGrid? tie m e = some c)
    (hall : ∀ v : ℚ, |v - f.units m| ≤ f.step e → f.Holds m v) :
    |c * f.step e - f.units m| ≤ f.step e / 2 := by
  have hsplit := f.units_eq_grid m e
  have hrest := f.rest_lt_step m e
  have hpos : (0 : ℚ) < 10 ^ (-e).toNat := by positivity
  have hden := f.step_eq e
  unfold onGrid? at h
  simp only [Nat.pow_eq] at h
  generalize f.units m * 10 ^ (-e).toNat / (2 ^ f.scale * 10 ^ e.toNat) = below at h hsplit
  generalize f.units m * 10 ^ (-e).toNat % (2 ^ f.scale * 10 ^ e.toNat) = rest at h hsplit hrest
  generalize 2 ^ f.scale * 10 ^ e.toNat = den at h hden
  have hrest₀ : (0 : ℚ) ≤ rest / 10 ^ (-e).toNat := by positivity
  -- the multiple below and the one above are both near enough to be read back
  have hbelow : f.roundsTo m below e = true := by
    refine roundsTo_iff_holds.mpr (hall _ ?_)
    rw [hsplit, abs_le]
    constructor <;> linarith
  have habove : f.roundsTo m (below + 1) e = true := by
    refine roundsTo_iff_holds.mpr (hall _ ?_)
    rw [hsplit, abs_le]
    push_cast
    constructor <;> linarith
  rw [hbelow, habove] at h
  simp only [Option.some.injEq, Bool.or_eq_true, Bool.and_eq_true, decide_eq_true_eq] at h
  split at h
  · next hlower =>
    subst h
    have hhalf : 2 * rest ≤ den := by
      rcases hlower with hlower | ⟨⟨hlower, -⟩, -⟩
      · exact hlower.le
      · exact hlower.le
    have hhalf' : (rest : ℚ) / 10 ^ (-e).toNat ≤ f.step e / 2 := by
      rw [hden, div_right_comm]
      refine div_le_div_of_nonneg_right ?_ hpos.le
      have hcast : (2 * rest : ℚ) ≤ den := by exact_mod_cast hhalf
      linarith
    rw [hsplit, abs_le]
    constructor <;> linarith
  · next hlower =>
    subst h
    have hhalf : den ≤ 2 * rest := Nat.not_lt.mp fun hlt => hlower (.inl hlt)
    have hhalf' : f.step e / 2 ≤ (rest : ℚ) / 10 ^ (-e).toNat := by
      rw [hden, div_right_comm]
      refine div_le_div_of_nonneg_right ?_ hpos.le
      have hcast : (den : ℚ) ≤ 2 * rest := by exact_mod_cast hhalf
      linarith
    rw [hsplit, abs_le]
    push_cast
    constructor <;> linarith

end Grid

/-! ## 3. The search -/

section Search

variable {tie : Tie}

/-- The search ends on a grid with a decimal, and it is at the top or there is none on the grid before. -/
theorem searchGrids_spec (hm : 0 < m) : ∀ {k : Nat} {top : Int}, top - k < -(f.scale : Int) →
    -(f.scale : Int) ≤ top →
      f.onGrid? tie m (f.searchGrids tie m top k).exponent =
          some (f.searchGrids tie m top k).coefficient ∧
        ((f.searchGrids tie m top k).exponent = top ∨
          f.onGrid? tie m ((f.searchGrids tie m top k).exponent + 1) = none)
  | 0, top, hlast, hfirst => absurd hfirst (by omega)
  | k + 1, top, hlast, hfirst => by
    unfold searchGrids
    split
    · next c hc => exact ⟨hc, .inl rfl⟩
    · next hnone =>
      have hne : top ≠ -(f.scale : Int) := by
        rintro rfl
        exact onGrid?_finest tie hm hnone
      obtain ⟨hsome, hbefore⟩ := searchGrids_spec hm (show top - 1 - (k : Int) < -(f.scale : Int) by omega)
        (by omega)
      refine ⟨hsome, .inr (hbefore.elim (fun htop => ?_) id)⟩
      rw [htop, Int.sub_add_cancel]
      exact hnone

/-- Past the top there is nothing. -/
theorem not_roundsTo_top (hm : 0 < m) (c : Nat) : ¬ f.roundsTo m c (f.topExponent m + 1) := by
  rw [roundsTo_iff_holds]
  intro h
  have hc : (1 : ℚ) ≤ c := by
    rcases Nat.eq_zero_or_pos c with rfl | hc
    · have hpos := h.pos hm
      simp at hpos
    · exact_mod_cast hc
  -- the whole part has as many digits as the top says
  have htop : (f.units m : ℚ) < 10 ^ f.topExponent m * 2 ^ f.scale := by
    have hdigits : f.units m / 2 ^ f.scale < 10 ^ f.topExponent m :=
      (Nat.length_toDigits_le_iff (by decide) Nat.length_toDigits_pos).mp le_rfl
    exact_mod_cast (Nat.div_lt_iff_lt_mul (Nat.pow_pos (by decide))).mp hdigits
  obtain ⟨r, -, hunits, hr⟩ := f.exists_units_eq m
  have hgap : (f.gap m : ℚ) ≤ f.units m := by
    rw [hunits]
    exact_mod_cast Nat.le_mul_of_pos_left _ (hr hm)
  have hhigh := h.high
  rw [units_succ_cast] at hhigh
  have hstep : f.step (f.topExponent m + 1) = 10 * (10 ^ f.topExponent m * 2 ^ f.scale) := by
    rw [step, zpow_add_one₀ (by norm_num), zpow_natCast]
    ring
  have hle : f.step (f.topExponent m + 1) ≤ c * f.step (f.topExponent m + 1) :=
    le_mul_of_one_le_left (step_pos _).le hc
  rw [hstep] at hle hhigh
  linarith

theorem shortest_found (tie : Tie) (hm : 0 < m) :
    f.onGrid? tie m (f.shortest tie m).exponent = some (f.shortest tie m).coefficient ∧
      ((f.shortest tie m).exponent = f.topExponent m ∨
        f.onGrid? tie m ((f.shortest tie m).exponent + 1) = none) :=
  searchGrids_spec hm (by omega) (by omega)

theorem holds_shortest (tie : Tie) (hm : 0 < m) :
    f.Holds m ((f.shortest tie m).coefficient * f.step (f.shortest tie m).exponent) :=
  roundsTo_iff_holds.mp (shortest_roundsTo tie hm)

/-- There is no decimal of the number on the next grid. -/
theorem not_roundsTo_next (tie : Tie) (hm : 0 < m) (c : Nat) :
    ¬ f.roundsTo m c ((f.shortest tie m).exponent + 1) := by
  rcases (shortest_found tie hm).2 with htop | hnone
  · rw [htop]
    exact not_roundsTo_top hm c
  · exact onGrid?_none hnone hm c

/-- **There is no decimal of the number on a coarser grid.** -/
theorem shortest_coarsest (tie : Tie) (hm : 0 < m) (c : Nat) {e : Int}
    (he : (f.shortest tie m).exponent < e) : ¬ f.roundsTo m c e := by
  obtain ⟨j, hj⟩ := Int.eq_ofNat_of_zero_le (show 0 ≤ e - ((f.shortest tie m).exponent + 1) by omega)
  obtain rfl : e = (f.shortest tie m).exponent + 1 + j := by omega
  have hgrid := not_roundsTo_next (f := f) tie hm (c * 10 ^ j)
  rw [roundsTo_iff_holds] at hgrid ⊢
  rw [step_add, ← mul_assoc]
  exact_mod_cast hgrid

/-- **No decimal of the number has fewer digits.** -/
theorem shortest_fewest (tie : Tie) (hm : 0 < m) (h : f.roundsTo m c e = true) :
    (Nat.toDigits 10 (f.shortest tie m).coefficient).length ≤ (Nat.toDigits 10 c).length := by
  by_contra hlt
  have hexp : e ≤ (f.shortest tie m).exponent :=
    Int.not_lt.mp fun hlt => shortest_coarsest tie hm c hlt h
  have hdigits := pow_le_of_toDigits (f.shortest_coefficient_pos tie hm)
  have hcoarse := not_roundsTo_next (f := f) tie hm
  have hfound := shortest_roundsTo (f := f) tie hm
  generalize hn : (Nat.toDigits 10 (f.shortest tie m).coefficient).length = n at hdigits hcoarse hlt
  generalize (f.shortest tie m).coefficient = c' at hdigits hfound
  generalize (f.shortest tie m).exponent = e' at hexp hcoarse hfound
  have hpos : 0 < (Nat.toDigits 10 c).length := Nat.length_toDigits_pos
  have hc : c < 10 ^ (n - 1) :=
    (Nat.length_toDigits_le_iff (by decide) (by omega)).mp (by omega)
  rw [roundsTo_iff_holds] at h hfound
  -- the power of ten between the two decimals
  have hpower : ((10 ^ (n - 2) : Nat) : ℚ) * f.step (e' + 1) = (10 ^ (n - 1) : Nat) * f.step e' := by
    obtain ⟨k, rfl⟩ := Nat.exists_eq_add_of_le' (show 2 ≤ n by omega)
    have hstep := f.step_add e' 1
    rw [Nat.cast_one] at hstep
    rw [hstep, Nat.add_sub_cancel, show k + 2 - 1 = k + 1 from rfl, Nat.pow_succ]
    push_cast
    ring
  have hstep : f.step e ≤ f.step e' := by
    obtain ⟨j, hj⟩ := Int.eq_ofNat_of_zero_le (show 0 ≤ e' - e by omega)
    obtain rfl : e' = e + j := by omega
    rw [step_add]
    exact le_mul_of_one_le_left (step_pos e).le (one_le_pow₀ (by norm_num))
  -- then the next power of ten lies between them, on a grid where nothing is read back
  refine hcoarse (10 ^ (n - 2)) (roundsTo_iff_holds.mpr (h.between hfound ?_ ?_))
  · rw [hpower]
    exact mul_le_mul (Nat.cast_le.mpr hc.le) hstep (step_pos e).le (Nat.cast_nonneg _)
  · rw [hpower]
    exact mul_le_mul_of_nonneg_right (Nat.cast_le.mpr hdigits) (step_pos e').le

end Search

/-! ## 4. Bounds -/

section Bounds

variable (tie : Tie) (hm : 0 < m)

include hm

/-- **The next grid is too coarse**: its step is at least half the distance of two patterns. -/
theorem gap_le_step : (f.gap m : ℚ) ≤ 20 * f.step (f.shortest tie m).exponent := by
  by_contra hlt
  have hstep := f.step_add (f.shortest tie m).exponent 1
  rw [Nat.cast_one, pow_one] at hstep
  obtain ⟨k, hlow, hhigh⟩ := f.exists_multiple m ((f.shortest tie m).exponent + 1)
  refine not_roundsTo_next (f := f) tie hm (k + 1) (roundsTo_iff_holds.mpr (holds_of_above hm ?_ ?_))
  · push_cast
    exact hhigh.le
  · push_cast
    linarith

/-- The digits of a shortest decimal are hardly more than those of a fraction. -/
theorem shortest_coefficient_le : (f.shortest tie m).coefficient ≤ 40 * 2 ^ f.fraction := by
  have hgap := gap_le_step (f := f) tie hm
  have hhigh := (holds_shortest (f := f) tie hm).high
  obtain ⟨r, hr, hunits, -⟩ := f.exists_units_eq m
  rw [units_succ_cast, hunits] at hhigh
  have hstep := f.step_pos (f.shortest tie m).exponent
  generalize f.step (f.shortest tie m).exponent = step at hgap hhigh hstep
  have hr' : (2 * r + 1 : ℚ) ≤ 4 * 2 ^ f.fraction := by
    exact_mod_cast (show 2 * r + 1 ≤ 4 * 2 ^ f.fraction by omega)
  have hle : (2 * r + 1 : ℚ) * f.gap m ≤ 4 * 2 ^ f.fraction * (20 * step) :=
    mul_le_mul hr' hgap (Nat.cast_nonneg _) (by positivity)
  have hbound : (f.shortest tie m).coefficient * step ≤ 40 * 2 ^ f.fraction * step := by
    push_cast at hhigh
    linarith
  exact_mod_cast le_of_mul_le_mul_right hbound hstep

/-- **On a fine grid the decimal is the nearest one.** -/
theorem shortest_near (hprev : (f.units (m - 1) : ℚ) + f.gap m ≤ f.units m)
    (hfine : 2 * f.step (f.shortest tie m).exponent < f.gap m) :
    |(f.shortest tie m).coefficient * f.step (f.shortest tie m).exponent - f.units m| ≤
      f.step (f.shortest tie m).exponent / 2 := by
  refine onGrid?_near (shortest_found tie hm).1 fun v hv => ?_
  obtain ⟨hlow, hhigh⟩ := abs_le.mp hv
  refine holds_of_between (by linarith) ?_
  rw [units_succ_cast]
  linarith

/-- The last digit of a 32-bit number is at the place `-46` or before it. -/
theorem single_exponent_ge : -46 ≤ (single.shortest tie m).exponent := by
  have hgap : (1 : ℚ) ≤ single.gap m := by exact_mod_cast single.gap_pos m
  have hstep := hgap.trans (gap_le_step tie hm)
  by_contra hlt
  have hpower : (10 : ℚ) ^ (single.shortest tie m).exponent ≤ 10 ^ (-47 : Int) :=
    zpow_le_zpow_right₀ (by norm_num) (by omega)
  have hsmall : (20 : ℚ) * (10 ^ (-47 : Int) * 2 ^ single.scale) < 1 := by
    rw [show single.scale = 149 from rfl]
    norm_num
  unfold step at hstep
  have hle := mul_le_mul_of_nonneg_right hpower (show (0 : ℚ) ≤ 2 ^ single.scale by positivity)
  linarith

end Bounds

end Format

end SoundEngine
