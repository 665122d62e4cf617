import SoundEngine.Json.Reader

/-!
# Numbers of a document

A number is read in two steps.  First its digits give a SIGNIFICAND, which is kept in 64 bits, and
a power of ten: digits of the whole part that no longer fit only raise the power, digits of the
fraction that no longer fit are dropped.  Then significand and power give the 64-bit number by
one conversion and one or more multiplications or divisions with a power of ten, each of them
rounded.  For up to 15 digits and powers up to 22 both steps are exact but for one rounding;
otherwise the result may lie next to the nearest number.
-/

namespace SoundEngine.Json

open Reader

/-! ## 1. Significand and power -/

/-- The greatest significand. -/
def significandLimit : Nat := Nat.pow 2 64 - 1

/-- Appends digits to a significand while it fits; the digits from the first that does not fit
are given back. -/
def absorb : Nat → List Char → Nat × List Char
  | n, [] => (n, [])
  | n, d :: ds =>
    let m := 10 * n + (d.toNat - 48)
    if m ≤ significandLimit then absorb m ds else (n, d :: ds)

/-- The greatest power of ten by which a number is scaled at once. -/
def powerLimit : Nat := 308

/-- `10 ^ k`, rounded. -/
def powerOfTen (k : Nat) : Double := Binary.ofNat (Nat.pow 10 k)

/-- Divides by `10 ^ 308` until `x * 10 ^ (-power)` can be computed at once, or `x` is zero. -/
def divideDown : Nat → Double → Nat → Double
  | 0, x, _ => x
  | steps + 1, x, power =>
    if power ≤ powerLimit then x.div (powerOfTen power)
    else if x = Binary.zero then x
    else divideDown steps (x.div (powerOfTen powerLimit)) (power - powerLimit)

/-- `significand * 10 ^ power` as a 64-bit number, without its sign.  A result that is too large
is an error, one that is too small is zero. -/
def scaled (significand : Nat) (power : Int) : Except Error Double :=
  let x : Double := Binary.ofNat significand
  if power < 0 then .ok (divideDown ((-power).toNat / powerLimit + 1) x (-power).toNat)
  else if power ≤ powerLimit then
    let y := x.mul (powerOfTen power.toNat)
    if y.isFinite then .ok y else .error .numberOutOfRange
  else if x = Binary.zero then .ok x
  else .error .numberOutOfRange

/-! ## 2. Reading -/

/-- The sign of an exponent: whether it is negative. -/
def exponentSign (s : List Char) : Bool × List Char :=
  match s with
  | '-' :: rest => (true, rest)
  | '+' :: rest => (false, rest)
  | _ => (false, s)

/-- The exponent after its letter. -/
def exponent : Reader Int := fun s =>
  let (negative, s) := exponentSign s
  match s with
  | [] => .error .endInValue
  | c :: _ =>
    if c.isDigit then
      let n : Nat := (s.takeWhile Char.isDigit).foldl (fun n d => 10 * n + (d.toNat - 48)) 0
      .ok (if negative then -(n : Int) else (n : Int), s.dropWhile Char.isDigit)
    else .error .invalidNumber

/-- A 64-bit number by its parts, after its significand: reads the exponent if there is one. -/
def realTail (negative : Bool) (significand : Nat) (power : Int) : Reader Number := fun s =>
  let finish (power : Int) (rest : List Char) : Except Error (Number × List Char) :=
    match scaled significand power with
    | .error e => .error e
    | .ok x => .ok (.real (if negative then x.neg else x), rest)
  match s with
  | c :: rest =>
    if c = 'e' ∨ c = 'E' then
      match exponent rest with
      | .error e => .error e
      | .ok (e, rest) => finish (power + e) rest
    else finish power s
  | [] => finish power s

/-- An integer without point and exponent.  A negative one is an integer when it fits 64 bits and
is not zero, otherwise a 64-bit number. -/
def wholeNumber (negative : Bool) (n : Nat) : Number :=
  if negative then
    if n = 0 ∨ Nat.pow 2 63 < n then .real (Binary.ofNat n).neg else .integer (-(n : Int))
  else .integer n

/-- A number after its sign. -/
def numeral (negative : Bool) : Reader Number := fun s =>
  match s with
  | [] => .error .endInValue
  | c :: rest =>
    if ¬ c.isDigit then .error .invalidNumber
    else if c = '0' ∧ (rest.head?.any Char.isDigit) then .error .invalidNumber
    else
      let (n, dropped) := absorb 0 (s.takeWhile Char.isDigit)
      let rest := s.dropWhile Char.isDigit
      match rest with
      | '.' :: tail =>
        let digits := tail.takeWhile Char.isDigit
        if digits.isEmpty then
          .error (if tail.isEmpty then .endInValue else .invalidNumber)
        else
          let (m, unread) := absorb n digits
          realTail negative m ((dropped.length : Int) - (digits.length - unread.length : Nat))
            (tail.dropWhile Char.isDigit)
      | _ =>
        if dropped.isEmpty ∧ ¬ rest.head?.any (fun d => d == 'e' || d == 'E') then
          .ok (wholeNumber negative n, rest)
        else realTail negative n dropped.length rest

/-! ## 3. Numbers that are ignored

A number that is ignored may have any size; only its shape is looked at. -/

/-- Digits, at least one. -/
def passDigits : Reader Unit := fun s =>
  if s.head?.any Char.isDigit then .ok ((), s.dropWhile Char.isDigit) else .error .invalidNumber

/-- An exponent if there is one. -/
def passExponent : Reader Unit := fun s =>
  match s with
  | c :: rest =>
    if c = 'e' ∨ c = 'E' then passDigits (exponentSign rest).2 else .ok ((), s)
  | [] => .ok ((), s)

/-- Follows a number after its sign. -/
def passNumeral : Reader Unit := fun s =>
  match s with
  | [] => .error .invalidNumber
  | c :: rest =>
    if c = '0' ∧ (rest.head?.any Char.isDigit) then .error .invalidNumber
    else
      match passDigits s with
      | .error e => .error e
      | .ok ((), '.' :: tail) =>
        match passDigits tail with
        | .error e => .error e
        | .ok ((), rest) => passExponent rest
      | .ok ((), rest) => passExponent rest

end SoundEngine.Json
