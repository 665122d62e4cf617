import SoundEngine.Binary.Basic

/-!
# The shortest decimal of a binary number

The decimals that round to a given binary number form an interval, which ends halfway to its two
neighbours.  The ends belong to it exactly when the number's pattern is even, because a tie goes
to the even pattern.  A decimal of the interval has the fewest digits exactly when it is a
multiple of the greatest power of ten that has a multiple in the interval; of the multiples of
that power the nearest to the number is chosen.

So the search goes down the powers of ten, and looks on each grid at the two neighbours of the
number: when any multiple of the power lies in the interval then one of these two does.  At the
power `-scale` the grid is finer than the distance of two binary numbers, and the search is sure
to have ended.
-/

namespace SoundEngine

/-- `coefficient * 10 ^ exponent`. -/
structure Decimal where
  coefficient : Nat
  exponent : Int
deriving DecidableEq

/-- Which of two equally near decimals is taken: the one with the even last digit, or the
greater. -/
inductive Tie where
  | even
  | up
deriving DecidableEq

namespace Format

/-- `c * 10 ^ e` rounds to the finite positive pattern `m`.  The comparison is between half units,
multiplied by the power of ten that makes both sides whole. -/
def roundsTo (f : Format) (m c : Nat) (e : Int) : Bool :=
  let value := c * Nat.pow 10 e.toNat * Nat.pow 2 (f.scale + 1)
  let low := (f.units (m - 1) + f.units m) * Nat.pow 10 (-e).toNat
  let high := (f.units m + f.units (m + 1)) * Nat.pow 10 (-e).toNat
  if m % 2 = 0 then decide (low ≤ value) && decide (value ≤ high)
  else decide (low < value) && decide (value < high)

/-- The multiple of `10 ^ e` nearest to the pattern `m`, by its coefficient, of those that round
to `m`. -/
def onGrid? (f : Format) (tie : Tie) (m : Nat) (e : Int) : Option Nat :=
  let num := f.units m * Nat.pow 10 (-e).toNat
  let den := Nat.pow 2 f.scale * Nat.pow 10 e.toNat
  let below := num / den
  let rest := num % den
  let lower := decide (2 * rest < den) || (decide (2 * rest = den) && tie == .even && below % 2 == 0)
  match f.roundsTo m below e, f.roundsTo m (below + 1) e with
  | true, true => some (if lower then below else below + 1)
  | true, false => some below
  | false, true => some (below + 1)
  | false, false => none

/-- A power of ten past every decimal of the pattern: as many as the whole part has digits. -/
def topExponent (f : Format) (m : Nat) : Nat :=
  (Nat.toDigits 10 (f.units m / Nat.pow 2 f.scale)).length

/-- The first grid with a decimal of the pattern, from the exponent `top - k` down. -/
def searchGrids (f : Format) (tie : Tie) (m : Nat) (top : Int) : Nat → Decimal
  | 0 => ⟨0, top⟩
  | k + 1 =>
    match f.onGrid? tie m top with
    | some c => ⟨c, top⟩
    | none => searchGrids f tie m (top - 1) k

/-- The shortest decimal that rounds to the finite positive pattern `m`, the nearest of those. -/
def shortest (f : Format) (tie : Tie) (m : Nat) : Decimal :=
  let top := f.topExponent m
  f.searchGrids tie m top (top + f.scale + 1)

end Format

end SoundEngine
