/-!
# From names to addresses

A request names its sound.  A name that is ABSOLUTE (it begins with a scheme and `://`) or ROOTED (it
begins with a slash) is an address already; any other name is appended to a base, with one slash
between them.  The empty name has no address.
-/

namespace SoundEngine.Address

/-! ## 1. Absolute names -/

/-- The characters before the first `://`. -/
def beforeMark? : List Char → Option (List Char)
  | [] => none
  | c :: cs =>
    if c = ':' ∧ ['/', '/'] <+: cs then some [] else (beforeMark? cs).map (c :: ·)

/-- A character that may follow the first one of a scheme. -/
def isSchemeChar (c : Char) : Bool :=
  c.isAlphanum || c == '+' || c == '-' || c == '.'

/-- A scheme is a letter followed by letters, digits, plus, minus and dot. -/
def isScheme : List Char → Bool
  | [] => false
  | c :: cs => c.isAlpha && cs.all isSchemeChar

/-- What stands before the first `://` is a scheme. -/
def isAbsolute (name : String) : Bool :=
  (beforeMark? name.toList).any isScheme

/-- The name begins with a slash. -/
def isRooted (name : String) : Bool := name.toList.head? == some '/'

/-! ## 2. Joining -/

/-- The base that is used when none is given. -/
def standardBase : String := "./sounds"

/-- The base that is used: an empty one stands for the standard base. -/
def baseOrStandard (base : String) : String := if base = "" then standardBase else base

/-- The characters without the slashes at their end. -/
def dropTrailingSlashes (s : List Char) : List Char :=
  (s.reverse.dropWhile (· == '/')).reverse

/-- A name that is not an address, appended to a base. -/
def join (base name : String) : String :=
  String.ofList (dropTrailingSlashes (baseOrStandard base).toList ++ '/' :: name.toList)

/-- The address of a name; none for the empty name. -/
def resolve (name base : String) : Option String :=
  if name = "" then none
  else if isAbsolute name || isRooted name then some name
  else some (join base name)

/-- Only the empty name has no address. -/
theorem resolve_eq_none_iff {name base : String} : resolve name base = none ↔ name = "" := by
  unfold resolve
  split
  · simp_all
  · split <;> simp_all

theorem ne_empty_of_resolve {name base address : String} (h : resolve name base = some address) :
    name ≠ "" := by
  intro hn
  rw [resolve_eq_none_iff.mpr hn] at h
  exact absurd h (by simp)

end SoundEngine.Address
