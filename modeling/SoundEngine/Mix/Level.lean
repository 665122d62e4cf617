import SoundEngine.Binary.Rounding

/-!
# Levels

Requests give volume, pitch and pan in percent; what reaches a source or a panner is a factor.
Gains and pans that come from elsewhere are brought into their range too.  What happens to
not-a-number differs: a percentage that is not a number counts as not given, a gain or a pan
that is not a number becomes zero.
-/

namespace SoundEngine.Level

/-- The 32-bit number of a small integer. -/
def whole (i : Int) : Single := Binary.ofInt i

/-- A gain in `[0, 1]`; not-a-number is silence. -/
def gain (x : Single) : Single :=
  if x.isNaN then .zero else x.clamp (whole 0) (whole 1)

/-- A pan in `[-1, 1]`; not-a-number is the centre. -/
def pan (x : Single) : Single :=
  if x.isNaN then .zero else x.clamp (whole (-1)) (whole 1)

/-- A percentage as a factor.  It is `unset` when it is not given or not a number, and is brought
into `[low, high]` before the division. -/
def ofPercent (unset low high : Single) (percent : Option Single) : Single :=
  let given := match percent with
    | some x => if x.isNaN then unset else x
    | none => unset
  (given.clamp low high).div (whole 100)

/-- The volume of an effect: 0 to 100 percent, 100 when not given. -/
def volumeFactor (percent : Option Single) : Single :=
  ofPercent (whole 100) (whole 0) (whole 100) percent

/-- The playback rate of an effect: 50 to 200 percent, 100 when not given. -/
def rateFactor (percent : Option Single) : Single :=
  ofPercent (whole 100) (whole 50) (whole 200) percent

/-- The pan of an effect: 100 percent left to 100 percent right, the centre when not given. -/
def panFactor (percent : Option Single) : Single :=
  ofPercent (whole 0) (whole (-100)) (whole 100) percent

end SoundEngine.Level
