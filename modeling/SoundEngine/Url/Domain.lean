import SoundEngine.Text.Canonical
import SoundEngine.Url.DomainData
import SoundEngine.Url.Punycode
import SoundEngine.Url.ScriptData

/-!
# Domain names in ASCII

A domain name may be written in any script.  Its ASCII form is what two names are compared by.
It is found in three steps: every character is replaced by what it stands for and the whole is
composed; the name is cut at its full stops; and each label is checked and, when it is not ASCII,
written in Punycode behind `xn--`.  A label that comes in this form is read back and checked
likewise, and must be what mapping would leave unchanged.

A name is refused for a character that may not occur, a label that begins with a mark, a joiner
out of place, or, in a name with right-to-left characters, a label that mixes directions.
Hyphens and lengths are not looked at.  Code points are naturals.
-/

namespace SoundEngine.Url.Domain

/-! ## 1. Mapping -/

/-- What a code point stands for. -/
def mapCode (n : Nat) : Option (List Nat) :=
  if refusedCodes.contains n then none
  else if ignoredCodes.contains n then some []
  else some ((mappedCodes.image? n).getD [n])

/-- The name with every character replaced by what it stands for, composed. -/
def mapped (ns : List Nat) : Option (List Nat) :=
  (ns.mapM mapCode).map fun rows => Canonical.compose rows.flatten

/-- The code point stands for itself. -/
def isValid (n : Nat) : Bool := mapCode n == some [n]

/-- ASCII characters that no domain has: controls, the space, and the signs that have a meaning in
an address. -/
def isDenied (n : Nat) : Bool :=
  decide (n ≤ 0x20) || n == 0x7f || ("%#/:<>?@[\\]^|".toList.any fun c => c.toNat == n)

/-! ## 2. Labels -/

/-- The cut at full stops. -/
def labels (ns : List Nat) : List (List Nat) :=
  ns.foldr
    (fun n ls =>
      match ls with
      | [] => if n = 0x2e then [[], []] else [[n]]
      | l :: rest => if n = 0x2e then [] :: l :: rest else (n :: l) :: rest)
    [[]]

/-- What every encoded label begins with. -/
def mark : List Nat := "xn--".toList.map Char.toNat

/-- How a letter joins its neighbours. -/
def joining (n : Nat) : Nat :=
  match joiningCodes.image? n with
  | some (k :: _) => k
  | _ => 0

/-- The joiner U+200C may stand where the letters around it would join, seen through what lies
between. -/
def splitsJoin (before after : List Nat) : Bool :=
  let left := before.dropWhile fun n => joining n == 4
  let right := after.dropWhile fun n => joining n == 4
  (left.head?.any fun n => joining n == 1 || joining n == 3) &&
    (right.head?.any fun n => joining n == 2 || joining n == 3)

/-- The joiners are in place: behind a vowel killer, or where they keep two letters apart.
`before` are the code points before, the last one first. -/
def joinersInPlace (before : List Nat) : List Nat → Bool
  | [] => true
  | n :: ns =>
    (if n = 0x200c ∨ n = 0x200d then
      (before.head?.any fun m => Canonical.combiningClass m == 9) ||
        (n == 0x200c && splitsJoin before ns)
     else true) && joinersInPlace (n :: before) ns

/-- A label that may occur. -/
def isProper (label : List Nat) : Bool :=
  !(label.any isDenied) && !(label.head?.any markCodes.contains) && joinersInPlace [] label

/-- A label with its ASCII form. -/
structure Label where
  characters : List Nat
  ascii : List Nat

/-- All code points are ASCII. -/
def isAscii (ns : List Nat) : Bool := ns.all fun n => decide (n < 0x80)

/-- The label meant by mapped characters. -/
def Label.of? (ns : List Nat) : Option Label :=
  if mark <+: ns then
    if !isAscii ns then none
    else
      match Punycode.decode ((ns.drop mark.length).map Char.ofNat) with
      | none => none
      | some cs =>
        if !isAscii cs && cs.all isValid && Canonical.compose cs == cs && isProper cs then
          some ⟨cs, ns⟩
        else none
  else if !isProper ns then none
  else if isAscii ns then some ⟨ns, ns⟩
  else some ⟨ns, mark ++ (Punycode.encode ns).map Char.toNat⟩

/-! ## 3. Directions -/

/-- The direction of a code point. -/
def direction (n : Nat) : Nat :=
  match directionCodes.image? n with
  | some (k :: _) => k
  | _ => 0

/-- The name has characters that run from right to left. -/
def isMixed (ls : List Label) : Bool :=
  ls.any fun l => l.characters.any fun n => direction n == 1 || direction n == 2

/-- The directions in a label go together.  A label begins with a letter, and all of it runs in the
letter's direction; it ends with a letter or a figure, marks aside; and not both kinds of figures
occur in a label from right to left. -/
def isUniform (ns : List Nat) : Bool :=
  let ds := ns.map direction
  let last := (ds.reverse.dropWhile (· == 4)).head?
  match ds with
  | [] => true
  | 0 :: _ =>
    (ds.all fun d => d == 0 || d == 3 || d == 4 || d == 5) && (last.any fun d => d == 0 || d == 3)
  | 1 :: _ =>
    (ds.all fun d => d == 1 || d == 2 || d == 3 || d == 4 || d == 5) &&
      (last.any fun d => d == 1 || d == 2 || d == 3) && !(ds.contains 2 && ds.contains 3)
  | _ => false

/-! ## 4. Names -/

/-- The ASCII form of a domain name. -/
def ascii? (name : List Char) : Option (List Char) := do
  let ns ← mapped (name.map Char.toNat)
  let ls ← (labels ns).mapM Label.of?
  if isMixed ls && !(ls.all fun l => isUniform l.characters) then none
  else some ((List.intercalate [0x2e] (ls.map Label.ascii)).map Char.ofNat)

end SoundEngine.Url.Domain
