import SoundEngine.Proofs.History
import SoundEngine.Proofs.Levels

/-!
# What becomes of a percentage

A request gives volume, pitch and pan in percent, and they can be any 32-bit numbers.  Each is clamped
and divided by a hundred.  Neither step turns the order of two percentages around: the clamp maps numbers
in their order, and so does a division that is rounded once, although most of the quotients are not exact.
The ends of the three ranges are divided exactly, so a percentage at an end or beyond it gives the end of
the factors.

There is one percentage for which that has to be said with care.  A volume of MINUS ZERO is not less than
zero, so the clamp keeps it, and the factor is minus zero: equal to the least factor, but not the same.

* §1 is the order with its two zeros, and a clamp in that order.
* §2 states what is asked of a factor, and proves it once for all three (`saturates_ofPercent`).
* §3 follows the pan to the panner.  It passes a second clamp on its way, which finds nothing to do
  (`percentages_saturate`).
-/

namespace SoundEngine

/-! ## 1. Two zeros in one order -/

namespace Binary

variable {f : Format} {x y z low high : Binary f}

/-- The zero that is not `zero`. -/
def minusZero : Binary f := zero.neg

theorem isNaN_of_lt (h : x.lt y = true) : y.isNaN = false := by
  cases y with
  | nan => exact absurd h (by cases x <;> simp [lt, key?])
  | number t n => rfl

theorem le_refl (h : x.isNaN = false) : x.le x = true := by
  cases x with
  | nan => cases h
  | number s m => exact le_number_iff.mpr le_rfl

theorem equal_number_iff {s t : Bool} {m n : Fin (f.infinity + 1)} :
    (number s m).equal (number t n) = true ↔ signed s m = signed t n := by
  unfold equal
  rw [key?_number, key?_number]
  exact decide_eq_true_iff

theorem lt_or_equal_of_le (h : x.le y = true) : x.lt y = true ∨ x.equal y = true := by
  obtain ⟨s, m, t, n, rfl, rfl⟩ := numbers_of_le h
  rw [lt_number_iff, equal_number_iff]
  exact lt_or_eq_of_le (le_number_iff.mp h)

theorem equal_of_le_of_le (hxy : x.le y = true) (hyx : y.le x = true) : x.equal y = true := by
  obtain ⟨s, m, t, n, rfl, rfl⟩ := numbers_of_le hxy
  exact equal_number_iff.mpr (le_antisymm (le_number_iff.mp hxy) (le_number_iff.mp hyx))

/-- Without minus zero, equal numbers are the same. -/
theorem eq_of_equal (h : x.equal y = true) (hx : x ≠ minusZero) (hy : y ≠ minusZero) : x = y := by
  cases x with
  | nan => exact absurd h (by simp [equal, key?])
  | number s m =>
    cases y with
    | nan => exact absurd h (by simp [equal, key?])
    | number t n =>
      rw [equal_number_iff] at h
      have hm : s = true → m.val ≠ 0 := by
        rintro rfl hzero
        exact hx (congrArg (number true) (Fin.ext hzero))
      have hn : t = true → n.val ≠ 0 := by
        rintro rfl hzero
        exact hy (congrArg (number true) (Fin.ext hzero))
      cases s <;> cases t <;> simp only [signed, if_true, Bool.false_eq_true, if_false] at h
      · exact congrArg (number false) (Fin.ext (by omega))
      · exact absurd (by omega) (hn rfl)
      · exact absurd (by omega) (hm rfl)
      · exact congrArg (number true) (Fin.ext (by omega))

/-- Nothing above zero is minus zero. -/
theorem ne_minusZero (hpos : Binary.zero.lt y = true) (h : y.le x = true) : x ≠ minusZero := by
  rintro rfl
  obtain ⟨t, n, -, -, rfl, -⟩ := numbers_of_le h
  have hlt : (0 : Int) < signed t n := lt_number_iff.mp hpos
  have hle : signed t n ≤ 0 := le_number_iff.mp h
  omega

/-- What is below the range becomes its low end. -/
theorem clamp_of_lt (h : x.lt low = true) : x.clamp low high = low := if_pos h

/-- **A clamp keeps the order.** -/
theorem clamp_le_clamp (hrange : low.le high = true) (h : x.le y = true) :
    (x.clamp low high).le (y.clamp low high) = true := by
  obtain ⟨a, l, b, k, rfl, rfl⟩ := numbers_of_le hrange
  obtain ⟨s, m, t, n, rfl, rfl⟩ := numbers_of_le h
  unfold clamp
  simp only [lt_number_iff]
  rw [le_number_iff] at hrange h
  split_ifs <;> rw [le_number_iff] <;> omega

end Binary

/-! ## 2. Factors -/

namespace Level

open Binary

/-- A percentage is scaled to a factor and saturates at the ends of its range.  A percentage that is not
given, or that is not a number, gives the usual factor. -/
structure Saturates (factor : Option Single → Single) (low high least greatest usual : Single) :
    Prop where
  mono : ∀ v w, v.le w = true → (factor (some v)).le (factor (some w)) = true
  within : ∀ percent, Within least greatest (factor percent)
  lowest : ∀ v, v.le low = true → (factor (some v)).equal least = true
  lowest_eq : ∀ v, v.le low = true → v ≠ minusZero → factor (some v) = least
  highest : ∀ v, high.le v = true → factor (some v) = greatest
  unset : factor none = usual
  nan : factor (some .nan) = usual

variable {unset low high v w : Single}

theorem ofPercent_number (h : v.isNaN = false) :
    ofPercent unset low high (some v) = (v.clamp low high).div (whole 100) := by
  simp only [ofPercent, h, Bool.false_eq_true, if_false]

/-- **The factors are in the order of the percentages.** -/
theorem ofPercent_mono (hrange : low.le high = true) (h : v.le w = true) :
    (ofPercent unset low high (some v)).le (ofPercent unset low high (some w)) = true := by
  obtain ⟨d, hd, hpos, hfin⟩ := hundred_eq
  obtain ⟨s, m, t, n, rfl, rfl⟩ := numbers_of_le h
  rw [ofPercent_number rfl, ofPercent_number rfl, hd]
  exact div_le_div hpos hfin (clamp_le_clamp hrange h)

theorem ofPercent_low (hrange : low.le high = true) :
    ofPercent unset low high (some low) = low.div (whole 100) := by
  obtain ⟨s, m, -, -, rfl, -⟩ := numbers_of_le hrange
  rw [ofPercent_number rfl, clamp_of_within ⟨le_refl rfl, hrange⟩]

theorem ofPercent_high (hrange : low.le high = true) :
    ofPercent unset low high (some high) = high.div (whole 100) := by
  obtain ⟨-, -, t, n, -, rfl⟩ := numbers_of_le hrange
  rw [ofPercent_number rfl, clamp_of_within ⟨hrange, le_refl rfl⟩]

theorem ofPercent_of_lt (h : v.lt low = true) :
    ofPercent unset low high (some v) = low.div (whole 100) := by
  cases v with
  | nan => exact absurd h (by simp [lt, key?])
  | number s m => rw [ofPercent_number rfl, clamp_of_lt h]

theorem ofPercent_of_gt (hrange : low.le high = true) (h : high.lt v = true) :
    ofPercent unset low high (some v) = high.div (whole 100) := by
  obtain ⟨a, l, b, k, rfl, rfl⟩ := numbers_of_le hrange
  cases v with
  | nan => exact absurd h (by simp [lt, key?])
  | number s m =>
    have hlow : ¬ (number s m).lt (number a l) = true := by
      rw [lt_number_iff] at h ⊢
      rw [le_number_iff] at hrange
      omega
    rw [ofPercent_number rfl]
    unfold clamp
    rw [if_neg hlow, if_pos h]

/-- **A percentage saturates**, in any range that does not begin with minus zero and ends above zero. -/
theorem saturates_ofPercent {least greatest usual : Single} (hrange : low.le high = true)
    (hlow : low ≠ minusZero) (hhigh : Binary.zero.lt high = true) (hunset : Within low high unset)
    (hleast : low.div (whole 100) = least) (hgreatest : high.div (whole 100) = greatest)
    (husual : unset.div (whole 100) = usual) :
    Saturates (ofPercent unset low high) low high least greatest usual := by
  subst hleast hgreatest husual
  have hnone : ofPercent unset low high none = unset.div (whole 100) :=
    congrArg (Binary.div · (whole 100)) (clamp_of_within hunset)
  refine ⟨fun v w => ofPercent_mono hrange, ofPercent_within hunset.isNaN hrange, fun v hv => ?_,
    fun v hv hne => ?_, fun v hv => ?_, hnone, hnone⟩
  · have hle : (ofPercent unset low high (some v)).le (ofPercent unset low high (some low)) = true :=
      ofPercent_mono hrange hv
    rw [ofPercent_low hrange] at hle
    exact equal_of_le_of_le hle (ofPercent_within hunset.isNaN hrange (some v)).1
  · rcases lt_or_equal_of_le hv with hlt | heq
    · exact ofPercent_of_lt hlt
    · rw [eq_of_equal heq hne hlow, ofPercent_low hrange]
  · rcases lt_or_equal_of_le hv with hlt | heq
    · exact ofPercent_of_gt hrange hlt
    · have hne : high ≠ minusZero := ne_minusZero hhigh (le_refl (isNaN_of_lt hhigh))
      rw [← eq_of_equal heq hne (ne_minusZero hhigh hv), ofPercent_high hrange]

theorem saturates_volume :
    Saturates volumeFactor (whole 0) (whole 100) (whole 0) (whole 1) (whole 1) :=
  saturates_ofPercent (by decide) (by decide) (by decide) (by decide) (by decide) (by decide) (by decide)

/-- A volume of minus zero stays what it is, and the infinities are beyond the ends. -/
example : volumeFactor (some minusZero) = minusZero ∧ volumeFactor (some (.infinite true)) = whole 0 ∧
    volumeFactor (some (.infinite false)) = whole 1 := by decide

theorem saturates_rate : Saturates rateFactor (whole 50) (whole 200) half (whole 2) (whole 1) :=
  saturates_ofPercent (by decide) (by decide) (by decide) (by decide) (by decide) (by decide) (by decide)

theorem saturates_pan :
    Saturates panFactor (whole (-100)) (whole 100) (whole (-1)) (whole 1) (whole 0) :=
  saturates_ofPercent (by decide) (by decide) (by decide) (by decide) (by decide) (by decide) (by decide)

/-- A pan in its range is not changed, of whatever sign its zero is. -/
theorem pan_of_within {x : Single} (h : Within (whole (-1)) (whole 1) x) : pan x = x := by
  unfold pan
  rw [h.isNaN, if_neg Bool.false_ne_true, clamp_of_within h]

/-- **The second clamp finds nothing to do.** -/
theorem pan_panFactor (percent : Option Single) : pan (panFactor percent) = panFactor percent :=
  pan_of_within (saturates_pan.within percent)

end Level

/-! ## 3. The way to the panner -/

open Level

variable {H : Host}

/-- If the exchange creates a panner, it is for this pan. -/
def Exchange.Pans (q : Single) (x : Exchange) : Prop := ∀ given, x.call = .createPanner given → given = q

namespace Conduct

variable {id : SourceId} {m : Mixer} {page : Option Url} {pan : Single}

theorem chaining_pans {bus : BusNode} {result : Except GraphFailure Route} {L : List Entry}
    (h : Chaining id bus pan result L) : ∀ x ∈ exchangesOf L, x.Pans (Level.pan pan) := by
  cases h <;> simp [Exchange.Pans]

theorem attaching_pans {kind : BusKind} {routing : Routing} {L : List Entry}
    (h : Attaching m page id kind pan routing L) : ∀ x ∈ exchangesOf L, x.Pans (Level.pan pan) := by
  have haddress : ∀ address, (Exchange.mk (.sourceAddress id) address).Pans (Level.pan pan) :=
    fun _ _ hcall => nomatch hcall
  cases h with
  | noBus => simp
  | crossOrigin => simpa using haddress _
  | attached _ _ hL | failed _ _ hL => exact List.forall_mem_cons.mpr ⟨haddress _, chaining_pans hL⟩

theorem routes_pans {kind : BusKind} {routing : Routing} {R : List Entry}
    (h : Routes m page id kind pan routing R) : ∀ x ∈ exchangesOf R, x.Pans (Level.pan pan) := by
  cases h with
  | attached hL => exact attaching_pans hL
  | direct hL hK =>
    have hscaling : ∀ {K : List Entry}, Scaling m id kind K →
        ∀ x ∈ exchangesOf K, x.Pans (Level.pan pan) := by
      rintro _ (_ | _) <;> simp [Exchange.Pans]
    rw [exchangesOf_append, exchangesOf_append]
    refine List.forall_mem_append.mpr ⟨attaching_pans hL, List.forall_mem_append.mpr ⟨hscaling hK, ?_⟩⟩
    simp [Exchange.Pans]

/-- **Every panner of an effect is for the pan of the request.** -/
theorem playingEffect_pans {effects : Effects} {supply : Supply} {base : String}
    {request : EffectRequest} {result : EffectOutcome × Supply × Effects} {L : List Entry}
    (h : PlayingEffect effects supply m page base request result L) :
    ∀ x ∈ exchangesOf L, x.Pans request.panFactor := by
  have hcreating : ∀ {address : String} {result : Except PlaybackFailure SourceId × Supply}
      {L : List Entry}, Creating supply page address result L →
      ∀ x ∈ exchangesOf L, x.Pans request.panFactor := by
    rintro _ _ _ (_ | _) <;> simp [Exchange.Pans]
  have hstarting : ∀ {id : SourceId} {start : Start} {S : List Entry}, Starting id start S →
      ∀ x ∈ exchangesOf S, x.Pans request.panFactor := by
    rintro _ _ _ (_ | _) <;> simp [Exchange.Pans]
  cases h with
  | skipped => simp
  | failed _ hL => simpa using hcreating hL
  | played _ hL hR hS =>
    have hrouting : ∀ x ∈ exchangesOf _, x.Pans (Level.pan request.panFactor) := routes_pans hR
    have hpan : Level.pan request.panFactor = request.panFactor := pan_panFactor request.pan
    rw [hpan] at hrouting
    have hrouted := List.forall_mem_append.mpr ⟨hrouting, hstarting hS⟩
    rw [exchangesOf_append]
    refine List.forall_mem_append.mpr ⟨hcreating hL, ?_⟩
    simpa [Exchange.Pans] using hrouted

theorem acts_pans {drained : List Notice} {e : Engine} {request : EffectRequest}
    {result : Answer × Engine} {L : List Entry} (h : Acts drained e (.playEffect request) result L) :
    ∀ x ∈ exchangesOf L, x.Pans request.panFactor := by
  cases h with
  | playEffect hL => exact playingEffect_pans hL

end Conduct

/-- **Percentages keep their order and saturate, and the panner gets the pan of the request.**  Of every
request:

* the volume is scaled from 0 to 100 percent to factors from zero to one, the pitch from 50 to 200 percent
  to rates from a half to two, and the pan from -100 to 100 percent to factors from minus one to one; the
  factors of any two percentages that are numbers, infinite ones too, are in the order of the percentages,
  and saturate at both ends;
* not-a-number gives what is usual when nothing is given;
* the clamp in front of the panner leaves the pan as it is.

In every run of the engine on every host, the panner of an effect is created for the pan of its
request. -/
theorem percentages_saturate (H : Host) :
    (∀ r : EffectRequest,
      Saturates (fun percent => { r with volume := percent }.volumeFactor)
        (whole 0) (whole 100) (whole 0) (whole 1) (whole 1) ∧
      Saturates (fun percent => { r with pitch := percent }.rateFactor)
        (whole 50) (whole 200) half (whole 2) (whole 1) ∧
      Saturates (fun percent => { r with pan := percent }.panFactor)
        (whole (-100)) (whole 100) (whole (-1)) (whole 1) (whole 0) ∧
      pan r.panFactor = r.panFactor) ∧
    ∀ settings host steps, ∀ p ∈ (Situation.opening settings host : Situation H).history steps,
      ∀ request, p.step = .perform (.playEffect request) →
        ∀ x ∈ p.exchanges, ∀ given, x.call = .createPanner given → given = request.panFactor := by
  refine ⟨fun r => ⟨saturates_volume, saturates_rate, saturates_pan, pan_panFactor r.pan⟩, ?_⟩
  intro settings host steps p hp request hstep
  have hl := listening_of_mem_history (opening_listening settings host) hp
  obtain ⟨answer, L, -, hexchanges, hacts⟩ := Passage.acted hl hstep
  rw [hexchanges]
  exact Conduct.acts_pans hacts

end SoundEngine
