import SoundEngine.Binary.Basic

/-!
# Rounding, and the arithmetic that rests on it

Every operation computes its exact result as a quotient of two naturals, counted in least
positive numbers of the target format, and rounds once: to the nearest number, and to the one
with the even pattern when two are equally near.

The pattern is found without a search.  A quotient `q` below `2 ^ (fraction + 1)` is rounded to a
whole number of units, which is its pattern.  A larger one is divided by the power of two, `2 ^
shift`, that brings it into `[2 ^ fraction, 2 ^ (fraction + 1)]` first; as each exponent holds
`2 ^ fraction` patterns, the pattern is then `shift * 2 ^ fraction` plus the rounded quotient.  A
result rounded up to the next power of two needs no case of its own, since the next pattern is
the right one, and neither does overflow, since the pattern after the last finite one is
infinity.
-/

namespace SoundEngine

/-- `num / den` to the nearest natural, a half to the even one. -/
def roundHalfEven (num den : Nat) : Nat :=
  let q := num / den
  let r := num % den
  if 2 * r < den then q else if den < 2 * r then q + 1 else q + q % 2

/-- The pattern nearest to `num / den` units, at most that of infinity. -/
def Format.nearest (f : Format) (num den : Nat) : Nat :=
  let shift := (num / den).log2 - f.fraction
  min (shift * Nat.pow 2 f.fraction + roundHalfEven num (den * Nat.pow 2 shift)) f.infinity

namespace Binary

variable {f : Format}

/-- The number nearest to `± num / den`. -/
def ofRatio (negative : Bool) (num den : Nat) : Binary f :=
  .ofPattern negative (f.nearest (num * Nat.pow 2 f.scale) den)

/-- The number nearest to a natural. -/
def ofNat (n : Nat) : Binary f := ofRatio false n 1

/-- The number nearest to an integer; zero is positive. -/
def ofInt (i : Int) : Binary f := ofRatio (decide (i < 0)) i.natAbs 1

/-- The rounded product.  Infinity times zero is not a number. -/
def mul : Binary f → Binary f → Binary f
  | .number s a, .number t b =>
    let sign := s != t
    if a.val = f.infinity ∨ b.val = f.infinity then
      if a.val = 0 ∨ b.val = 0 then .nan else .infinite sign
    else .ofPattern sign (f.nearest (f.units a * f.units b) (Nat.pow 2 f.scale))
  | _, _ => .nan

/-- The rounded quotient.  A quotient of zeros or of infinities is not a number. -/
def div : Binary f → Binary f → Binary f
  | .number s a, .number t b =>
    let sign := s != t
    if a.val = f.infinity then
      if b.val = f.infinity then .nan else .infinite sign
    else if b.val = f.infinity then .ofPattern sign 0
    else if b.val = 0 then
      if a.val = 0 then .nan else .infinite sign
    else .ofPattern sign (f.nearest (f.units a * Nat.pow 2 f.scale) (f.units b))
  | _, _ => .nan

/-- The number of another format nearest to this one; the sign of zero is kept. -/
def convert (g : Format) : Binary f → Binary g
  | .nan => .nan
  | .number s m =>
    if m.val = f.infinity then .infinite s
    else .ofPattern s (g.nearest (f.units m * Nat.pow 2 g.scale) (Nat.pow 2 f.scale))

end Binary

end SoundEngine
