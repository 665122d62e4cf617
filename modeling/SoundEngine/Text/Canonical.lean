import SoundEngine.Text.CanonicalData

/-!
# The composed normal form

Texts that are canonically equivalent look alike and are to be treated alike: a letter with an
accent is one character or two.  `Canonical.compose` gives the composed normal form of the
Unicode standard: every character is taken apart, the marks of each letter are brought into the
order of their classes, and what can be composed is composed again.  Code points are naturals.
-/

namespace SoundEngine.Canonical

/-! ## 1. Hangul syllables

A syllable is computed from its leading consonant, its vowel and its optional trailing
consonant. -/

/-- The first syllable. -/
def firstSyllable : Nat := 0xac00

/-- The first leading consonant. -/
def firstLead : Nat := 0x1100

/-- The first vowel. -/
def firstVowel : Nat := 0x1161

/-- One before the first trailing consonant: the offset zero stands for none. -/
def noTrail : Nat := 0x11a7

/-- How many leading consonants there are. -/
def leadCount : Nat := 19

/-- How many vowels there are. -/
def vowelCount : Nat := 21

/-- How many trailing consonants there are, none counted as one. -/
def trailCount : Nat := 28

/-- The letters of a syllable. -/
def takeSyllable? (n : Nat) : Option (List Nat) :=
  if firstSyllable ≤ n ∧ n < firstSyllable + leadCount * vowelCount * trailCount then
    let k := n - firstSyllable
    let lead := firstLead + k / (vowelCount * trailCount)
    let vowel := firstVowel + k % (vowelCount * trailCount) / trailCount
    let trail := k % trailCount
    some (if trail = 0 then [lead, vowel] else [lead, vowel, noTrail + trail])
  else none

/-- The syllable of a consonant with a vowel, or of a syllable with a trailing consonant. -/
def joinSyllable? (a b : Nat) : Option Nat :=
  if firstLead ≤ a ∧ a < firstLead + leadCount ∧ firstVowel ≤ b ∧ b < firstVowel + vowelCount then
    some (firstSyllable + ((a - firstLead) * vowelCount + (b - firstVowel)) * trailCount)
  else if firstSyllable ≤ a ∧ a < firstSyllable + leadCount * vowelCount * trailCount ∧
      (a - firstSyllable) % trailCount = 0 ∧ noTrail < b ∧ b < noTrail + trailCount then
    some (a + (b - noTrail))
  else none

/-! ## 2. Decomposition and order -/

/-- The longest chain of compositions has fewer links. -/
def chainBound : Nat := 8

/-- Takes a code point apart. -/
def takeApart : Nat → Nat → List Nat
  | 0, n => [n]
  | k + 1, n =>
    match takeSyllable? n with
    | some ns => ns
    | none =>
      match replacedCodes.image? n with
      | some ns => ns
      | none =>
        match composedCodes.image? n with
        | some (m :: ns) => takeApart k m ++ ns
        | _ => [n]

/-- The combining class; zero for a code point that is no mark of a letter. -/
def combiningClass (n : Nat) : Nat :=
  match combiningClasses.image? n with
  | some (c :: _) => c
  | _ => 0

/-- Adds a code point to a row that is in order and written last one first: a mark moves before
the marks of a higher class. -/
def settle (n : Nat) : List Nat → List Nat
  | [] => [n]
  | m :: ms =>
    if combiningClass n ≠ 0 ∧ combiningClass n < combiningClass m then m :: settle n ms
    else n :: m :: ms

/-- The decomposed form in canonical order. -/
def decompose (ns : List Nat) : List Nat :=
  ((ns.flatMap (takeApart chainBound)).foldl (fun row n => settle n row) []).reverse

/-! ## 3. Composition -/

/-- The pairs that are composed, as one number each, with what they are composed to, in
ascending order. -/
def pairs : Array (Nat × Nat) :=
  ((composedCodes.runs.toList.filterMap fun r =>
      match r.image with
      | [a, b] => some (a * 0x200000 + b, r.first)
      | _ => none).mergeSort fun p q => decide (p.1 ≤ q.1)).toArray

/-- The code point composed of two. -/
def join? (a b : Nat) : Option Nat :=
  match joinSyllable? a b with
  | some n => some n
  | none =>
    let key := a * 0x200000 + b
    match CodeSet.lastStart (fun i => (pairs[i]?.getD (0, 0)).1) key (pairs.size.log2 + 2) 0
        pairs.size with
    | none => none
    | some i =>
      match pairs[i]? with
      | some (k, n) => if k = key then some n else none
      | none => none

/-- Composes a starter with what follows.  `passed` are the marks that could not be composed with
it, the last one first; a code point behind a mark of its own class or a higher one is out of
reach. -/
def composeFrom (starter : Nat) (passed : List Nat) : List Nat → List Nat
  | [] => starter :: passed.reverse
  | n :: ns =>
    let c := combiningClass n
    let reachable := match passed with
      | [] => true
      | p :: _ => decide (combiningClass p < c)
    match (if reachable then join? starter n else none) with
    | some composed => composeFrom composed passed ns
    | none =>
      if c = 0 then starter :: (passed.reverse ++ composeFrom n [] ns)
      else composeFrom starter (n :: passed) ns

/-- The composed normal form.  Marks before the first letter stay as they are. -/
def compose (ns : List Nat) : List Nat :=
  let row := decompose ns
  let marks := row.takeWhile fun n => combiningClass n ≠ 0
  match row.drop marks.length with
  | [] => marks
  | n :: rest => marks ++ composeFrom n [] rest

end SoundEngine.Canonical
