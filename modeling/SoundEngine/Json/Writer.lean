import SoundEngine.Json.Text

/-!
# Writing documents

Documents are written without blanks, members in the order given.  A number that is infinite or
not a number has no written form, and `null` stands in its place.
-/

namespace SoundEngine.Json

/-- A boolean. -/
def writeFlag (b : Bool) : List Char := if b then "true".toList else "false".toList

/-- A 32-bit number, by its shortest decimal. -/
def writeSingle (x : Single) : List Char :=
  if x.isFinite then singleLayout.number x else "null".toList

/-- A natural number. -/
def writeNatural (n : Nat) : List Char := Nat.toDigits 10 n

/-- A key with a written value. -/
def writeMember (name : String) (value : List Char) : List Char :=
  writeText name ++ ':' :: value

/-- Written members with commas between them. -/
def writeMembers : List (List Char) → List Char
  | [] => []
  | [m] => m
  | m :: ms => m ++ ',' :: writeMembers ms

/-- An object of written members. -/
def writeObject (members : List (List Char)) : List Char :=
  '\x7b' :: (writeMembers members ++ ['\x7d'])

/-- A member that is left out when it is not set. -/
def writeOptional {β : Type} (name : String) (write : β → List Char) : Option β → List (List Char)
  | none => []
  | some b => [writeMember name (write b)]

end SoundEngine.Json
