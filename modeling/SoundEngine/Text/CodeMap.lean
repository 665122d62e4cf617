import SoundEngine.Text.CodeSet

/-!
# Maps on code points

A map that gives each of some code points a row of code points (or of numbers), kept as an
ascending table of runs.  In a run all code points have the same image, or the image grows with
the code point, or only every second code point has an image, which grows likewise.  A run is
written `b2=32`, `132=69+6a`, `41-5a>61` or `100-12e~101`.
-/

namespace SoundEngine

/-- How the image changes along a run. -/
inductive CodeRun.Kind where
  | constant
  | growing
  | everySecond
deriving DecidableEq

/-- A stretch of code points with their images. -/
structure CodeRun where
  first : Nat
  last : Nat
  kind : CodeRun.Kind
  image : List Nat

instance : Inhabited CodeRun := ⟨⟨0, 0, .constant, []⟩⟩

namespace CodeRun

/-- The image of the run's first code point, moved by `offset`. -/
def shifted (r : CodeRun) (offset : Nat) : List Nat :=
  match r.image with
  | [] => []
  | n :: ns => (n + offset) :: ns

/-- The image of a code point that is not before the run. -/
def image? (r : CodeRun) (n : Nat) : Option (List Nat) :=
  if r.last < n then none
  else
    match r.kind with
    | .constant => some r.image
    | .growing => some (r.shifted (n - r.first))
    | .everySecond => if (n - r.first) % 2 = 0 then some (r.shifted (n - r.first)) else none

/-- A run by its text and the sign that shows its kind. -/
def ofText? (kind : Kind) (sign s : String) : Option CodeRun :=
  match s.splitOn sign with
  | [place, image] =>
    let (first, last) := CodeSet.interval place
    some ⟨first, last, kind, (image.splitOn "+").map hexNumber⟩
  | _ => none

/-- A run by its text. -/
def ofText (s : String) : CodeRun :=
  ((ofText? .constant "=" s).or ((ofText? .growing ">" s).or (ofText? .everySecond "~" s))).getD
    default

end CodeRun

/-- Ascending disjoint runs. -/
structure CodeMap where
  runs : Array CodeRun

namespace CodeMap

/-- The map written in rows of runs. -/
def ofRows (rows : List String) : CodeMap :=
  ⟨(rows.flatMap fun row => (row.splitOn " ").map CodeRun.ofText).toArray⟩

/-- The image of a code point, if it has one. -/
def image? (m : CodeMap) (n : Nat) : Option (List Nat) :=
  match CodeSet.lastStart (fun i => (m.runs[i]?.getD default).first) n
      (m.runs.size.log2 + 2) 0 m.runs.size with
  | none => none
  | some i => (m.runs[i]?.getD default).image? n

end CodeMap

end SoundEngine
