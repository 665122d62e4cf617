/-!
# Punycode

The form in which a label with characters beyond ASCII is written in ASCII: its ASCII characters,
a hyphen, and digits that say where the other characters are inserted.  The characters are
inserted in ascending order; each insertion is one number, the distance from the one before in
the order of first code point and then position.  A number is written with the least digit
first, each place with a threshold that adapts to the size of the numbers before.

Code points are naturals throughout.
-/

namespace SoundEngine.Url.Punycode

/-! ## 1. Thresholds -/

/-- The threshold of a place, counted from one: between 1 and 26. -/
def threshold (bias place : Nat) : Nat :=
  if 36 * place ≤ bias + 1 then 1 else min 26 (36 * place - bias)

/-- Divides by 35 until at most 455 is left, and counts 36 for each division. -/
def shrink : Nat → Nat → Nat × Nat
  | 0, delta => (delta, 0)
  | k + 1, delta =>
    if delta ≤ 455 then (delta, 0)
    else
      let (d, n) := shrink k (delta / 35)
      (d, n + 36)

/-- The bias after a number, when `count` characters are in place.  The first number counts
less. -/
def adapt (delta count : Nat) (first : Bool) : Nat :=
  let delta := if first then delta / 700 else delta / 2
  let delta := delta + delta / count
  let (d, n) := shrink (delta.log2 + 1) delta
  n + 36 * d / (d + 38)

/-- The first code point that is not ASCII. -/
def firstInserted : Nat := 0x80

/-- The bias of the first number. -/
def firstBias : Nat := 72

/-! ## 2. Reading -/

/-- The value of a digit: letters count from 0, figures from 26. -/
def digit? (c : Char) : Option Nat :=
  if 'a' ≤ c ∧ c ≤ 'z' then some (c.toNat - 97)
  else if 'A' ≤ c ∧ c ≤ 'Z' then some (c.toNat - 65)
  else if '0' ≤ c ∧ c ≤ '9' then some (c.toNat - 22)
  else none

/-- What has been read: the label so far, the next code point and position, the number that is
being read with its weight and place, the bias, and whether no number is complete yet. -/
structure Progress where
  label : List Nat
  code : Nat
  position : Nat
  number : Nat
  weight : Nat
  place : Nat
  bias : Nat
  first : Bool

/-- A number of the code space that stands for a character. -/
def isScalar (n : Nat) : Bool := decide (n < 0xd800) || (decide (0xdfff < n) && decide (n ≤ 0x10ffff))

/-- One digit.  A digit below the threshold ends its number and inserts a character. -/
def Progress.step (p : Progress) (d : Nat) : Option Progress :=
  let number := p.number + d * p.weight
  let t := threshold p.bias p.place
  if t ≤ d then some { p with number, weight := p.weight * (36 - t), place := p.place + 1 }
  else
    let count := p.label.length + 1
    let code := p.code + (p.position + number) / count
    let position := (p.position + number) % count
    if isScalar code then
      some {
        label := p.label.take position ++ code :: p.label.drop position
        code, position := position + 1, number := 0, weight := 1, place := 1
        bias := adapt number count p.first, first := false }
    else none

/-- Reads the digits; the last number must be complete. -/
def digits (p : Progress) : List Char → Option (List Nat)
  | [] => if p.place = 1 then some p.label else none
  | c :: cs =>
    match digit? c with
    | none => none
    | some d =>
      match p.step d with
      | none => none
      | some q => digits q cs

/-- The label that is written so.  The last hyphen ends the ASCII characters, if there are any. -/
def decode (s : List Char) : Option (List Nat) :=
  let tail := (s.reverse.takeWhile (· != '-')).reverse
  let head := s.take (s.length - tail.length)
  digits ⟨head.dropLast.map Char.toNat, firstInserted, 0, 0, 1, 1, firstBias, true⟩
    (if head.length = 1 then s else tail)

/-! ## 3. Writing -/

/-- The digit of a value. -/
def digit (d : Nat) : Char := if d < 26 then Char.ofNat (97 + d) else Char.ofNat (22 + d)

/-- A number by its digits, the least first. -/
def number (bias : Nat) : Nat → Nat → Nat → List Char
  | 0, _, n => [digit n]
  | k + 1, place, n =>
    let t := threshold bias place
    if n < t then [digit n]
    else digit (t + (n - t) % (36 - t)) :: number bias k (place + 1) ((n - t) / (36 - t))

/-- What has been written: the digits, the distance so far, the characters in place, the bias. -/
structure Written where
  digits : List Char
  delta : Nat
  count : Nat
  bias : Nat
  first : Bool

/-- Goes over the label once for the code point `code`: each smaller character adds to the
distance, each equal one is written. -/
def pass (code : Nat) (w : Written) : List Nat → Written
  | [] => w
  | n :: ns =>
    if n < code then pass code { w with delta := w.delta + 1 } ns
    else if n = code then
      pass code
        { digits := w.digits ++ number w.bias (w.delta.log2 + 1) 1 w.delta
          delta := 0, count := w.count + 1
          bias := adapt w.delta (w.count + 1) w.first, first := false } ns
    else pass code w ns

/-- The code points beyond ASCII, ascending, each once. -/
def inserted (label : List Nat) : List Nat :=
  ((label.filter fun n => decide (firstInserted ≤ n)).mergeSort fun a b => decide (a ≤ b)).eraseDups

/-- The digits of all characters beyond ASCII. -/
def passes (label : List Nat) : List Nat → Nat → Written → List Char
  | [], _, w => w.digits
  | code :: codes, next, w =>
    let w := pass code { w with delta := w.delta + (code - next) * (w.count + 1) } label
    passes label codes (code + 1) { w with delta := w.delta + 1 }

/-- The label in ASCII, without a prefix. -/
def encode (label : List Nat) : List Char :=
  let basic := (label.filter fun n => decide (n < firstInserted)).map Char.ofNat
  let start := if basic.isEmpty then [] else basic ++ ['-']
  start ++ passes label (inserted label) firstInserted ⟨[], 0, basic.length, firstBias, true⟩

end SoundEngine.Url.Punycode
