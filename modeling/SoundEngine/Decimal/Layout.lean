import SoundEngine.Decimal.Shortest

/-!
# How a decimal is written

A `Layout` says which decimals are written with their point in place and how an exponent is
written otherwise.  A number written in place always shows a digit on both sides of the point.
-/

namespace SoundEngine

/-- The decisions of a written form.  `least` and `greatest` bound the place of the leading digit
(`0` for the ones) within which the point is written in place; `plus` puts a sign before an
exponent that is not negative; `tie` chooses between two equally near shortest decimals. -/
structure Layout where
  least : Int
  greatest : Int
  plus : Bool
  tie : Tie

namespace Layout

/-- Digits with the point in place, the leading digit at the place `lead`. -/
def inPlace (digits : List Char) (lead : Int) : List Char :=
  if lead < 0 then
    ['0', '.'] ++ List.replicate ((-lead).toNat - 1) '0' ++ digits
  else
    let whole := lead.toNat + 1
    let fraction := digits.drop whole
    (digits ++ List.replicate (whole - digits.length) '0').take whole ++ '.' ::
      (if fraction.isEmpty then ['0'] else fraction)

/-- Digits with an exponent: the leading digit, the others after a point, and the place. -/
def withExponent (plus : Bool) (digits : List Char) (lead : Int) : List Char :=
  let mantissa := digits.take 1 ++ (if digits.length ≤ 1 then [] else '.' :: digits.drop 1)
  let sign := if lead < 0 then ['-'] else if plus then ['+'] else []
  mantissa ++ 'e' :: (sign ++ Nat.toDigits 10 lead.natAbs)

/-- A decimal in this layout. -/
def write (layout : Layout) (d : Decimal) : List Char :=
  let digits := Nat.toDigits 10 d.coefficient
  let lead := d.exponent + digits.length - 1
  if layout.least ≤ lead ∧ lead ≤ layout.greatest then inPlace digits lead
  else withExponent layout.plus digits lead

/-- A number in this layout, by its shortest decimal. -/
def number {f : Format} (layout : Layout) : Binary f → List Char
  | .nan => "NaN".toList
  | .number s m =>
    (if s then ['-'] else []) ++
      if m.val = f.infinity then "inf".toList
      else if m.val = 0 then "0.0".toList
      else layout.write (f.shortest layout.tie m.val)

end Layout

end SoundEngine
