/-!
# Sets of code points

The character properties of the Unicode standard are sets of code points, kept here as an
ascending table of closed intervals.  A table is written as text, one interval after the other,
in hexadecimal: `300-36f 483-489 591`.  Membership is a binary search.
-/

namespace SoundEngine

/-- The value of a hexadecimal digit. -/
def hexDigit? (c : Char) : Option Nat :=
  if '0' ≤ c ∧ c ≤ '9' then some (c.toNat - 48)
  else if 'a' ≤ c ∧ c ≤ 'f' then some (c.toNat - 87)
  else if 'A' ≤ c ∧ c ≤ 'F' then some (c.toNat - 55)
  else none

/-- A number written in hexadecimal; other characters count as zero digits. -/
def hexNumber (s : String) : Nat :=
  s.toList.foldl (fun n c => 16 * n + (hexDigit? c).getD 0) 0

/-- Ascending disjoint intervals of code points. -/
structure CodeSet where
  intervals : Array (Nat × Nat)

namespace CodeSet

/-- The interval written as `first-last`, or as one number when it holds one code point. -/
def interval (s : String) : Nat × Nat :=
  match s.splitOn "-" with
  | [first, last] => (hexNumber first, hexNumber last)
  | _ => (hexNumber s, hexNumber s)

/-- The set written in rows of intervals. -/
def ofRows (rows : List String) : CodeSet :=
  ⟨(rows.flatMap fun row => (row.splitOn " ").map interval).toArray⟩

/-- Position of the last interval that starts at or before `n`, among those in `[low, high)`.
Each of the `steps` halves the stretch that is left. -/
def lastStart (starts : Nat → Nat) (n : Nat) : Nat → Nat → Nat → Option Nat
  | 0, _, _ => none
  | steps + 1, low, high =>
    if low ≥ high then none
    else if high = low + 1 then (if starts low ≤ n then some low else none)
    else
      let middle := (low + high) / 2
      if starts middle ≤ n then lastStart starts n steps middle high
      else lastStart starts n steps low middle

/-- The code point is in the set. -/
def contains (s : CodeSet) (n : Nat) : Bool :=
  match lastStart (fun i => (s.intervals[i]?.getD (0, 0)).1) n
      (s.intervals.size.log2 + 2) 0 s.intervals.size with
  | none => false
  | some i => decide (n ≤ (s.intervals[i]?.getD (0, 0)).2)

end CodeSet

end SoundEngine
