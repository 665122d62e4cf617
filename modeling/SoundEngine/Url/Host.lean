import SoundEngine.Text.CodeSet
import SoundEngine.Url.Domain

/-!
# Hosts

The host of an address is a number of four or sixteen bytes or a domain name.  One host can be
written in many ways: a number of four bytes by one to four parts, each decimal, octal or
hexadecimal; a domain with escaped bytes, capital letters and characters that stand for others.
`Host.ofText?` gives all these one value.
-/

namespace SoundEngine.Url

/-! ## 1. Pieces of text -/

/-- The pieces between the separators; there is always at least one. -/
def pieces (separator : Char) (s : List Char) : List (List Char) :=
  s.foldr
    (fun c ps =>
      match ps with
      | [] => [[]]
      | p :: rest => if c = separator then [] :: p :: rest else (c :: p) :: rest)
    [[]]

/-- The value of digits in a base; none when a character is no digit of it. -/
def numberIn? (base : Nat) (s : List Char) : Option Nat :=
  s.foldlM (fun n c => do
    let d ← hexDigit? c
    if d < base then some (base * n + d) else none) 0

/-- The bytes of a text, with `%` and two hexadecimal digits for a byte. -/
def unescapedBytes : List UInt8 → List UInt8
  | 37 :: a :: b :: rest =>
    match hexDigit? (Char.ofNat a.toNat), hexDigit? (Char.ofNat b.toNat) with
    | some x, some y => UInt8.ofNat (16 * x + y) :: unescapedBytes rest
    | _, _ => 37 :: unescapedBytes (a :: b :: rest)
  | c :: rest => c :: unescapedBytes rest
  | [] => []

/-- The text with its escapes undone; none when the bytes are no text. -/
def unescaped? (s : List Char) : Option (List Char) :=
  let bytes := unescapedBytes (String.ofList s).toUTF8.toList
  (String.fromUTF8? ⟨bytes.toArray⟩).map String.toList

/-! ## 2. Numbers of four bytes -/

/-- A part of a number of four bytes: hexadecimal after `0x`, octal after `0`. -/
def fourBytePart? : List Char → Option Nat
  | [] => none
  | '0' :: 'x' :: s => numberIn? 16 s
  | '0' :: 'X' :: s => numberIn? 16 s
  | '0' :: s => numberIn? 8 s
  | s => numberIn? 10 s

/-- The parts without one empty part at the end. -/
def withoutEmptyEnd (ps : List (List Char)) : List (List Char) :=
  match ps.reverse with
  | [] :: rest => rest.reverse
  | _ => ps

/-- The last part is a number, so the host must be a number of four bytes. -/
def endsInNumber (s : List Char) : Bool :=
  match (withoutEmptyEnd (pieces '.' s)).reverse with
  | [] => false
  | last :: _ => (!last.isEmpty && last.all Char.isDigit) || (fourBytePart? last).isSome

/-- The value of the parts: all but the last are bytes, the last one fills the rest. -/
def fourBytes? (s : List Char) : Option Nat := do
  let numbers ← (withoutEmptyEnd (pieces '.' s)).mapM fourBytePart?
  let last ← numbers.getLast?
  let bytes := numbers.dropLast
  if 3 < bytes.length ∨ (bytes.any fun b => decide (255 < b)) ∨ Nat.pow 256 (4 - bytes.length) ≤ last then
    none
  else
    some (bytes.foldl (fun n b => 256 * n + b) 0 * Nat.pow 256 (4 - bytes.length) + last)

/-! ## 3. Numbers of sixteen bytes -/

/-- A group of up to four hexadecimal digits. -/
def group? (s : List Char) : Option Nat :=
  if s.isEmpty ∨ 4 < s.length then none else numberIn? 16 s

/-- A byte in decimal, without leading zeros. -/
def decimalByte? (s : List Char) : Option Nat :=
  if s.isEmpty ∨ (1 < s.length ∧ s.head? = some '0') then none
  else (numberIn? 10 s).bind fun n => if n ≤ 255 then some n else none

/-- Four bytes at the end, as two groups. -/
def byteGroups? (s : List Char) : Option (List Nat) :=
  match (pieces '.' s).mapM decimalByte? with
  | some [a, b, c, d] => some [256 * a + b, 256 * c + d]
  | _ => none

/-- Groups with colons between them; four bytes may stand for the last two. -/
def groups? : List (List Char) → Option (List Nat)
  | [] => some []
  | [last] => if last.contains '.' then byteGroups? last else (group? last).map fun n => [n]
  | g :: gs => do
    let n ← group? g
    let ns ← groups? gs
    some (n :: ns)

/-- The groups of a text that may be empty. -/
def groupsOf? (s : List Char) : Option (List Nat) :=
  if s.isEmpty then some [] else groups? (pieces ':' s)

/-- The parts around the first double colon. -/
def aroundGap? : List Char → Option (List Char × List Char)
  | [] => none
  | c :: cs =>
    if c = ':' ∧ cs.head? = some ':' then some ([], cs.tail)
    else (aroundGap? cs).map fun (left, right) => (c :: left, right)

/-- The eight groups; a double colon stands for as many zeros as are missing, at least one. -/
def sixteenBytes? (s : List Char) : Option (List Nat) :=
  match aroundGap? s with
  | none => (groupsOf? s).bind fun gs => if gs.length = 8 then some gs else none
  | some (left, right) => do
    if left.contains '.' then none
    else
      let a ← groupsOf? left
      let b ← groupsOf? right
      if a.length + b.length ≤ 7 then
        some (a ++ List.replicate (8 - a.length - b.length) 0 ++ b)
      else none

/-! ## 4. Hosts -/

/-- A host. -/
inductive Host where
  | domain (name : List Char)
  | fourBytes (value : Nat)
  | sixteenBytes (groups : List Nat)
deriving DecidableEq

/-- The number of sixteen bytes between square brackets. -/
def bracketed? (s : List Char) : Option Host :=
  if s.getLast? = some ']' then (sixteenBytes? (s.drop 1).dropLast).map .sixteenBytes else none

/-- The host that a text names. -/
def Host.ofText? (s : List Char) : Option Host :=
  if s.head? = some '[' then bracketed? s
  else do
    let name ← Domain.ascii? (← unescaped? s)
    if name.isEmpty then none
    else if endsInNumber name then (fourBytes? name).map .fourBytes
    else some (.domain name)

/-- A host of a scheme without rules for domains: any text without certain signs will do. -/
def isFreeHost (s : List Char) : Bool :=
  if s.head? = some '[' then (bracketed? s).isSome
  else
    s.all fun c => !(c.toNat == 0 || ("\t\n\r #/:<>?@[\\]^|".toList.contains c))

end SoundEngine.Url
