/-!
# Binary floating-point numbers

A number of a binary interchange format is a sign and a MAGNITUDE.  The magnitude is the bit
pattern without its sign bit, read as a natural number: `0` is zero, the subnormals and the
normal numbers follow in the order of their size, and the last pattern is infinity.  So the
order of two non-negative numbers is the order of two naturals, the next number is the
successor, and every statement about a range of numbers is a statement about an interval of
`Nat`.

`Format.units` gives a pattern its value, as a multiple of the least positive number of the
format.  All arithmetic (`Binary.Rounding`) is exact arithmetic on these multiples followed by
one rounding, which is what the standard asks of every basic operation.

There is one not-a-number value: no operation here depends on its sign or payload.
-/

namespace SoundEngine

/-! ## 1. Formats -/

/-- A binary interchange format, given by the widths of its two fields. -/
structure Format where
  fraction : Nat
  exponent : Nat
deriving DecidableEq

namespace Format

/-- The 32-bit format: 23 bits of fraction, 8 of exponent. -/
def single : Format := ⟨23, 8⟩

/-- The 64-bit format: 52 bits of fraction, 11 of exponent. -/
def double : Format := ⟨52, 11⟩

/-- The pattern of infinity, one more than that of the greatest finite number. -/
def infinity (f : Format) : Nat := (Nat.pow 2 f.exponent - 1) * Nat.pow 2 f.fraction

/-- The least positive number is `2 ^ (-scale)`. -/
def scale (f : Format) : Nat := Nat.pow 2 (f.exponent - 1) - 2 + f.fraction

/-- The value of a pattern, counted in least positive numbers.  Patterns with an exponent field
of zero are their own value; each further exponent doubles the distance of two neighbours. -/
def units (f : Format) (m : Nat) : Nat :=
  let e := m / Nat.pow 2 f.fraction
  let r := m % Nat.pow 2 f.fraction
  if e = 0 then r else (Nat.pow 2 f.fraction + r) * Nat.pow 2 (e - 1)

end Format

/-! ## 2. Numbers -/

/-- A number of the format `f`, or not a number. -/
inductive Binary (f : Format) where
  | nan
  | number (negative : Bool) (magnitude : Fin (f.infinity + 1))
deriving DecidableEq

/-- The 32-bit numbers: volumes, rates, gains, pans. -/
abbrev Single := Binary .single

/-- The 64-bit numbers: playhead positions, and the literals of a document. -/
abbrev Double := Binary .double

namespace Binary

variable {f : Format}

/-- The number of the given sign and pattern; a pattern past the last one is infinity. -/
def ofPattern (negative : Bool) (m : Nat) : Binary f :=
  .number negative ⟨min m f.infinity, Nat.lt_succ_of_le (Nat.min_le_right _ _)⟩

/-- Positive zero. -/
def zero : Binary f := .number false 0

/-- Infinity of the given sign. -/
def infinite (negative : Bool) : Binary f := .number negative (Fin.last _)

instance : Inhabited (Binary f) := ⟨zero⟩

/-- The result that is no number. -/
def isNaN : Binary f → Bool
  | .nan => true
  | .number _ _ => false

/-- Neither infinite nor not a number. -/
def isFinite : Binary f → Bool
  | .nan => false
  | .number _ m => decide (m.val < f.infinity)

/-- The number with its sign turned. -/
def neg : Binary f → Binary f
  | .nan => .nan
  | .number s m => .number (!s) m

/-! ## 3. Order

Two numbers compare as their signed patterns, which makes both zeros equal.  Nothing compares
with not-a-number. -/

/-- The signed pattern: an order key for all numbers. -/
def key? : Binary f → Option Int
  | .nan => none
  | .number true m => some (-(m.val : Int))
  | .number false m => some m.val

/-- `x < y`, false when either is not a number. -/
def lt (x y : Binary f) : Bool :=
  match x.key?, y.key? with
  | some a, some b => decide (a < b)
  | _, _ => false

/-- `x = y` as numbers: the zeros are equal, not-a-number differs from itself. -/
def equal (x y : Binary f) : Bool :=
  match x.key?, y.key? with
  | some a, some b => decide (a = b)
  | _, _ => false

/-- What equals zero is a zero, of one sign or the other. -/
theorem equal_zero_iff {x : Binary f} :
    x.equal .zero = true ↔ ∃ negative, x = .number negative 0 := by
  cases x with
  | nan => simp [equal, key?]
  | number negative m =>
    have hkey : (number negative m : Binary f).equal .zero = true ↔ m = 0 := by
      rw [Fin.ext_iff]
      cases negative <;> simp [equal, key?, zero]
    rw [hkey]
    constructor
    · rintro rfl
      exact ⟨negative, rfl⟩
    · rintro ⟨s, hs⟩
      exact (number.inj hs).2

/-- The nearest number of `[low, high]`.  Not-a-number is kept, and so is a zero of either sign
when zero is in the range. -/
def clamp (x low high : Binary f) : Binary f :=
  if x.lt low then low else if high.lt x then high else x

/-! ## 4. Bits -/

/-- The whole bit pattern; `none` for not-a-number, which has many. -/
def bits? : Binary f → Option Nat
  | .nan => none
  | .number s m => some ((if s then Nat.pow 2 (f.exponent + f.fraction) else 0) + m.val)

/-- The bit pattern in hexadecimal digits, as many as the format has half-bytes; `NaN` for
not-a-number. -/
def hexadecimal (x : Binary f) : String :=
  match x.bits? with
  | none => "NaN"
  | some b =>
    let digits := Nat.toDigits 16 b
    String.ofList (List.replicate ((1 + f.exponent + f.fraction) / 4 - digits.length) '0' ++ digits)

end Binary

end SoundEngine
